import Mathlib
import ModelGate.Proofs.Tier.Resolution

/-!
# What the tier cache drops

A cache holds one entry for an identity, and never more entries than it has room for
(`IsKept`).  That is what bounds an eviction: before an identity is added there is at most one entry
too many, so that a full cache drops what has expired, or else a single entry (`MakesRoom`).
`cache_of_run` says so of every run, and what every next resolution does to the cache.

Room is made before the expiry of the new entry is known.  A resolution whose expiry no clock can
show fails behind that point: it has made room, and keeps nothing.
-/

namespace ModelGate

namespace TierCache

variable {cache : TierCache} {mapping : TierMapping} {now : Duration} {key : GroupKey}
  {entry : CachedTier} {entries : List CachedTier}

/-! ## Room -/

theorem find?_eq_none_iff : cache.find? key = none ↔ ∀ entry ∈ cache.entries, entry.key ≠ key := by
  unfold find?
  simp

theorem shrink_of_lt {bound : Nat} (h : entries.length < bound) (steps : Nat) :
    shrink bound steps entries = entries := by
  cases steps with
  | zero => rfl
  | succ steps =>
      unfold shrink
      rw [if_pos h]

/-- Dropping what expires next takes one entry out, and none of the others expires before it. -/
theorem exists_dropNext (h : entries ≠ []) :
    ∃ before entry after, entries = before ++ entry :: after ∧
      (∀ other ∈ entries, entry.expiresAt ≤ other.expiresAt) ∧
      dropNext entries = before ++ after := by
  cases hearliest : earliest? entries with
  | none => simp [earliest?, h] at hearliest
  | some earliest =>
      obtain ⟨hmem, hle⟩ := List.min?_eq_some_iff.1 hearliest
      obtain ⟨first, hfirst, rfl⟩ := List.mem_map.1 hmem
      obtain ⟨entry, before, after, -, hentry, hentries, hdrop⟩ :=
        List.exists_of_eraseP (p := fun entry => some entry.expiresAt == earliest? entries)
          hfirst (by rw [hearliest]; exact beq_self_eq_true _)
      have hsame : entry.expiresAt = first.expiresAt := by simpa [hearliest] using hentry
      refine ⟨before, entry, after, hentries, ?_, hdrop⟩
      intro other hother
      rw [hsame]
      exact hle _ (List.mem_map_of_mem hother)

/-- What a cache keeps of its entries before an identity is added. -/
inductive MakesRoom (cache : TierCache) (key : GroupKey) (now : Duration) :
    List CachedTier → Prop
  /-- The identity has an entry already, which needs no more room. -/
  | known {entry : CachedTier} (h : entry ∈ cache.entries) (hkey : entry.key = key) :
      MakesRoom cache key now cache.entries
  | free (hnew : ∀ entry ∈ cache.entries, entry.key ≠ key) (h : cache.size < cache.capacity) :
      MakesRoom cache key now cache.entries
  /-- A full cache drops all that has expired. -/
  | expired (hnew : ∀ entry ∈ cache.entries, entry.key ≠ key) (hfull : cache.size = cache.capacity)
      {entry : CachedTier} (h : entry ∈ cache.entries) (hexpired : entry.expiresAt ≤ now) :
      MakesRoom cache key now (cache.entries.filter fun entry => decide (now < entry.expiresAt))
  /-- If nothing has expired, it drops one entry, before which no other one expires. -/
  | next (hnew : ∀ entry ∈ cache.entries, entry.key ≠ key) (hfull : cache.size = cache.capacity)
      (hlive : ∀ entry ∈ cache.entries, now < entry.expiresAt)
      {before after : List CachedTier} {entry : CachedTier}
      (hentries : cache.entries = before ++ entry :: after)
      (hnext : ∀ other ∈ cache.entries, entry.expiresAt ≤ other.expiresAt) :
      MakesRoom cache key now (before ++ after)

/-- The cache holds one entry for an identity and has room for all of them. -/
structure IsKept (cache : TierCache) : Prop where
  capacity_pos : 0 < cache.capacity
  size_le : cache.size ≤ cache.capacity
  nodup : (cache.entries.map (·.key)).Nodup

theorem isKept_new (ttl : Duration) (capacity : Nat) : (new ttl capacity).IsKept where
  capacity_pos := Nat.lt_of_lt_of_le Nat.one_pos (Nat.le_max_right _ _)
  size_le := Nat.zero_le _
  nodup := List.nodup_nil

theorem IsKept.makesRoom (h : cache.IsKept) (key : GroupKey) (now : Duration) :
    MakesRoom cache key now (cache.makeRoom key now) := by
  have hpos := h.capacity_pos
  have hle : cache.entries.length ≤ cache.capacity := h.size_le
  unfold makeRoom
  cases hfind : cache.find? key with
  | some entry =>
      rw [if_neg (by simp)]
      refine .known (List.mem_of_find?_eq_some hfind) ?_
      simpa using List.find?_some hfind
  | none =>
      have hnew := find?_eq_none_iff.1 hfind
      by_cases hfull : cache.capacity ≤ cache.entries.length
      · have hsize : cache.size = cache.capacity := Nat.le_antisymm hle hfull
        rw [if_pos ⟨hfull, rfl⟩]
        dsimp only
        by_cases hlive : ∀ entry ∈ cache.entries, now < entry.expiresAt
        · -- Nothing has expired, and one entry less is enough.
          have hall : cache.entries.filter (fun entry => decide (now < entry.expiresAt)) =
              cache.entries := List.filter_eq_self.2 (by simpa using hlive)
          have hsome : cache.entries ≠ [] :=
            List.ne_nil_of_length_pos (Nat.lt_of_lt_of_le hpos hfull)
          obtain ⟨before, entry, after, hentries, hnext, hdrop⟩ := exists_dropNext hsome
          have hlength : cache.entries.length = (before ++ after).length + 1 := by
            rw [hentries]
            simp
            omega
          rw [hall, hlength, shrink, if_neg (by omega), hdrop, shrink_of_lt (by omega)]
          exact .next hnew hsize hlive hentries hnext
        · push Not at hlive
          obtain ⟨entry, hmem, hexpired⟩ := hlive
          have hless : (cache.entries.filter fun entry => decide (now < entry.expiresAt)).length <
              cache.entries.length :=
            List.length_filter_lt_length_iff_exists.2 ⟨entry, hmem, by simpa using hexpired⟩
          rw [shrink_of_lt (Nat.lt_of_lt_of_le hless hle)]
          exact .expired hnew hsize hmem hexpired
      · rw [if_neg (by simp [hfull])]
        exact .free hnew (Nat.not_le.1 hfull)

namespace MakesRoom

variable {kept : List CachedTier}

theorem sublist (h : MakesRoom cache key now kept) : kept.Sublist cache.entries := by
  cases h with
  | known h hkey => exact List.Sublist.refl _
  | free hnew h => exact List.Sublist.refl _
  | expired hnew hfull h hexpired => exact List.filter_sublist
  | next hnew hfull hlive hentries hnext =>
      rw [hentries]
      exact (List.Sublist.refl _).append (List.sublist_cons_self _ _)

/-- Unless the identity has an entry already, there is room for one more. -/
theorem mem_or_length_lt (h : MakesRoom cache key now kept) (hsize : cache.size ≤ cache.capacity) :
    key ∈ kept.map (·.key) ∨ kept.length < cache.capacity := by
  cases h with
  | known h hkey => exact Or.inl (List.mem_map.2 ⟨_, h, hkey⟩)
  | free hnew h => exact Or.inr h
  | expired hnew hfull h hexpired =>
      refine Or.inr (Nat.lt_of_lt_of_le ?_ hsize)
      exact List.length_filter_lt_length_iff_exists.2 ⟨_, h, by simpa using hexpired⟩
  | next hnew hfull hlive hentries hnext =>
      refine Or.inr (Nat.lt_of_lt_of_le ?_ hsize)
      unfold size
      rw [hentries]
      simp

end MakesRoom

/-! ## The new entry -/

theorem map_key_put (entry : CachedTier) (entries : List CachedTier) :
    (put entry entries).map (·.key) =
      if entry.key ∈ entries.map (·.key) then entries.map (·.key)
      else entries.map (·.key) ++ [entry.key] := by
  induction entries with
  | nil => rfl
  | cons other rest ih =>
      unfold put
      by_cases hkey : other.key = entry.key
      · simp [hkey]
      · rw [if_neg hkey, List.map_cons, ih]
        by_cases hmem : entry.key ∈ rest.map (·.key)
        · simp [hmem]
        · rw [if_neg hmem, if_neg (by simpa [Ne.symm hkey] using hmem)]
          rfl

theorem find?_put (entry : CachedTier) (entries : List CachedTier) :
    (put entry entries).find? (·.key == entry.key) = some entry := by
  induction entries with
  | nil => simp [put]
  | cons other rest ih =>
      unfold put
      by_cases hkey : other.key = entry.key
      · simp [hkey]
      · rw [if_neg hkey, List.find?_cons_of_neg (by simpa using hkey), ih]

theorem filter_put (entry : CachedTier) (entries : List CachedTier) :
    (put entry entries).filter (·.key ≠ entry.key) = entries.filter (·.key ≠ entry.key) := by
  induction entries with
  | nil => simp [put]
  | cons other rest ih =>
      unfold put
      by_cases hkey : other.key = entry.key
      · simp [hkey]
      · rw [if_neg hkey, List.filter_cons_of_pos (by simpa using hkey), ih,
          List.filter_cons_of_pos (by simpa using hkey)]

/-! ## One resolution -/

/-- The entries of all other identities. -/
def others (cache : TierCache) (key : GroupKey) : List CachedTier :=
  cache.entries.filter (·.key ≠ key)

/-- What the resolution of an identity answers, and the cache behind it. -/
inductive Resolves (cache : TierCache) (mapping : TierMapping) (now : Duration) (key : GroupKey) :
    Except ExpiryError (Option Tier) × TierCache → Prop
  | hit {entry : CachedTier} (h : entry ∈ cache.entries) (hkey : entry.key = key)
      (hfresh : now < entry.expiresAt) : Resolves cache mapping now key (.ok entry.tier, cache)
  /-- The mapping is asked, and its answer is kept for one time to live. -/
  | stored {cache' : TierCache}
      (hstale : ∀ entry ∈ cache.entries, entry.key = key → entry.expiresAt ≤ now)
      (hroom : ∃ kept, MakesRoom cache key now kept ∧ cache'.others key = kept.filter (·.key ≠ key))
      (hstored : cache'.find? key = some ⟨key, mapping.resolve key.groups, now + cache.ttl⟩)
      (hexpiry : (now + cache.ttl).seconds < 2 ^ 63) :
      Resolves cache mapping now key (.ok (mapping.resolve key.groups), cache')
  /-- No clock can show the end of the time to live. -/
  | failed {cache' : TierCache}
      (hstale : ∀ entry ∈ cache.entries, entry.key = key → entry.expiresAt ≤ now)
      (hroom : MakesRoom cache key now cache'.entries)
      (hexpiry : 2 ^ 63 ≤ (now + cache.ttl).seconds) :
      Resolves cache mapping now key (.error .unrepresentable, cache')

theorem IsKept.le_of_fresh?_eq_none (hkept : cache.IsKept) (h : cache.fresh? key now = none) :
    ∀ entry ∈ cache.entries, entry.key = key → entry.expiresAt ≤ now := by
  intro entry hentry hkey
  cases hfind : cache.find? key with
  | none => exact absurd hkey (find?_eq_none_iff.1 hfind entry hentry)
  | some found =>
      have hfound : found.key = key := by simpa using List.find?_some hfind
      -- There is no other entry of the identity.
      obtain rfl : found = entry := List.inj_on_of_nodup_map hkept.nodup
        (List.mem_of_find?_eq_some hfind) hentry (hfound.trans hkey.symm)
      unfold fresh? at h
      rw [hfind] at h
      simpa [Option.filter] using h

theorem IsKept.resolves (h : cache.IsKept) (mapping : TierMapping) (now : Duration)
    (key : GroupKey) : cache.Resolves mapping now key (cache.resolve mapping now key) := by
  cases hfresh : cache.fresh? key now with
  | some entry =>
      obtain ⟨hmem, hkey, hnow⟩ := fresh?_eq_some hfresh
      rw [resolve_of_fresh hfresh]
      exact .hit hmem hkey hnow
  | none =>
      have hstale := h.le_of_fresh?_eq_none hfresh
      have hroom := h.makesRoom key now
      rw [resolve_of_stale hfresh]
      cases hexpiry : expiry? now cache.ttl with
      | none => exact .failed hstale hroom (expiry?_eq_none_iff.1 hexpiry)
      | some expiresAt =>
          obtain rfl := expiry?_eq_some hexpiry
          have hothers := filter_put ⟨key, mapping.resolve key.groups, now + cache.ttl⟩
            (cache.makeRoom key now)
          have hfound := find?_put ⟨key, mapping.resolve key.groups, now + cache.ttl⟩
            (cache.makeRoom key now)
          refine .stored hstale ⟨_, hroom, hothers⟩ hfound ?_
          by_contra hlate
          rw [expiry?_eq_none_iff.2 (Nat.not_lt.1 hlate)] at hexpiry
          cases hexpiry

theorem capacity_resolve : (cache.resolve mapping now key).2.capacity = cache.capacity := by
  unfold resolve
  split
  · rfl
  · dsimp only
    split <;> rfl

/-- Of a resolution that fails only the room is left that was made for it. -/
theorem late_of_resolve_eq_error {cache' : TierCache} {error : ExpiryError} (hkept : cache.IsKept)
    (h : cache.resolve mapping now key = (.error error, cache')) :
    2 ^ 63 ≤ (now + cache.ttl).seconds ∧
      ∃ kept, MakesRoom cache key now kept ∧ cache' = { cache with entries := kept } := by
  have hresolves := hkept.resolves mapping now key
  have httl := @ttl_resolve cache mapping now key
  have hcapacity := @capacity_resolve cache mapping now key
  rw [h] at httl hcapacity
  rw [h] at hresolves
  cases hresolves with
  | failed hstale hroom hlate =>
      refine ⟨hlate, cache'.entries, hroom, ?_⟩
      dsimp only at httl hcapacity
      rw [← httl, ← hcapacity]

/-- A resolution keeps the cache as it has to be. -/
theorem IsKept.resolve (h : cache.IsKept) (mapping : TierMapping) (now : Duration)
    (key : GroupKey) : (cache.resolve mapping now key).2.IsKept := by
  cases hfresh : cache.fresh? key now with
  | some entry =>
      rw [resolve_of_fresh hfresh]
      exact h
  | none =>
      have hroom := h.makesRoom key now
      have hsublist := hroom.sublist
      have hnodup : ((cache.makeRoom key now).map (·.key)).Nodup :=
        h.nodup.sublist (hsublist.map (·.key))
      have hlength := hsublist.length_le.trans h.size_le
      rw [resolve_of_stale hfresh]
      cases expiry? now cache.ttl with
      | none => exact ⟨h.capacity_pos, hlength, hnodup⟩
      | some expiresAt =>
          have hkeys := map_key_put ⟨key, mapping.resolve key.groups, expiresAt⟩
            (cache.makeRoom key now)
          dsimp only at hkeys ⊢
          refine ⟨h.capacity_pos, ?_, ?_⟩
          · -- The entry takes the place of one, or there is room for it.
            have hput := congrArg List.length hkeys
            rw [List.length_map] at hput
            unfold size
            rw [hput]
            rcases hroom.mem_or_length_lt h.size_le with hknown | hless
            · rw [if_pos hknown, List.length_map]
              exact hlength
            · split_ifs
              · rw [List.length_map]
                exact hlength
              · simpa using hless
          · rw [hkeys]
            split_ifs with hknown
            · exact hnodup
            · exact List.nodup_append.2 ⟨hnodup, by simp, by simpa using hknown⟩

end TierCache

/-! ## Runs -/

/-- A cache with the mapping behind it and the time. -/
structure CachedMapping where
  cache : TierCache
  mapping : TierMapping
  now : Duration

/-- What happens to a cache and its mapping. -/
inductive CacheEvent where
  | resolved (key : GroupKey)
  | waited (span : Duration)
  | replaced (mapping : TierMapping)

namespace CachedMapping

/-- What is left behind an event. -/
def step (s : CachedMapping) : CacheEvent → CachedMapping
  | .resolved key => { s with cache := (s.cache.resolve s.mapping s.now key).2 }
  | .waited span => { s with now := s.now + span }
  | .replaced mapping => { s with mapping }

/-- What is left behind some events, from an empty cache on. -/
def run (ttl : Duration) (capacity : Nat) (events : List CacheEvent) : CachedMapping :=
  events.foldl step ⟨.new ttl capacity, .empty, 0⟩

theorem run_append_singleton (ttl : Duration) (capacity : Nat) (events : List CacheEvent)
    (e : CacheEvent) : run ttl capacity (events ++ [e]) = (run ttl capacity events).step e := by
  unfold run
  rw [List.foldl_append]
  rfl

theorem bounds_run (ttl : Duration) (capacity : Nat) (events : List CacheEvent) :
    (run ttl capacity events).cache.ttl = ttl ∧
      (run ttl capacity events).cache.capacity = max capacity 1 := by
  induction events using List.reverseRecOn with
  | nil => exact ⟨rfl, rfl⟩
  | append_singleton events e ih =>
      rw [run_append_singleton]
      cases e with
      | resolved key =>
          exact ⟨TierCache.ttl_resolve.trans ih.1, TierCache.capacity_resolve.trans ih.2⟩
      | waited span => exact ih
      | replaced mapping => exact ih

theorem isKept_run (ttl : Duration) (capacity : Nat) (events : List CacheEvent) :
    (run ttl capacity events).cache.IsKept := by
  induction events using List.reverseRecOn with
  | nil => exact TierCache.isKept_new ttl capacity
  | append_singleton events e ih =>
      rw [run_append_singleton]
      cases e with
      | resolved key => exact ih.resolve _ _ key
      | waited span => exact ih
      | replaced mapping => exact ih

/-- A cache with a time to live and room for some identities, at least one: it holds no more
entries than that, and one for an identity at most; and the resolution of an identity answers and
drops what `TierCache.Resolves` says. -/
structure KeepsBounds (ttl : Duration) (capacity : Nat) (s : CachedMapping) : Prop where
  ttl_eq : s.cache.ttl = ttl
  capacity_eq : s.cache.capacity = max capacity 1
  size_le : s.cache.size ≤ max capacity 1
  nodup : (s.cache.entries.map (·.key)).Nodup
  resolves : ∀ key,
    s.cache.Resolves s.mapping s.now key (s.cache.resolve s.mapping s.now key)

/-- After any run a resolution is a hit; or it keeps what the mapping says now, and drops others
only from a full cache and for a new identity, namely all that have expired or else one that expires
next; or its expiry is beyond what a clock can show, and it fails after it has dropped those. -/
theorem cache_of_run (ttl : Duration) (capacity : Nat) (events : List CacheEvent) :
    KeepsBounds ttl capacity (run ttl capacity events) := by
  obtain ⟨httl, hcapacity⟩ := bounds_run ttl capacity events
  have hkept := isKept_run ttl capacity events
  exact {
    ttl_eq := httl
    capacity_eq := hcapacity
    size_le := hcapacity ▸ hkept.size_le
    nodup := hkept.nodup
    resolves := fun key => hkept.resolves _ _ key }

end CachedMapping

end ModelGate

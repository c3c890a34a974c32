import Mathlib
import ModelGate.Tier.Cache

/-!
# What the tier cache keeps and what it answers

A resolution depends on the set of groups alone, so the key of an identity resolves as the groups
do.  The cache never changes an entry: making room only takes entries away, and the one entry that
a resolution adds holds what the mapping says now and expires one time to live from now.
-/

namespace ModelGate

/-! ## Identities -/

theorem mem_insertGroup_iff (group g : String) (groups : List String) :
    g ∈ insertGroup group groups ↔ g = group ∨ g ∈ groups := by
  induction groups with
  | nil => simp [insertGroup]
  | cons other rest ih =>
      unfold insertGroup
      by_cases hlt : group < other
      · rw [if_pos hlt, List.mem_cons]
      · rw [if_neg hlt]
        by_cases heq : group = other
        · rw [if_pos heq, heq]
          simp
        · rw [if_neg heq, List.mem_cons, ih, List.mem_cons]
          constructor
          · rintro (hg | hg | hg)
            · exact Or.inr (Or.inl hg)
            · exact Or.inl hg
            · exact Or.inr (Or.inr hg)
          · rintro (hg | hg | hg)
            · exact Or.inr (Or.inl hg)
            · exact Or.inl hg
            · exact Or.inr (Or.inr hg)

/-- The key of an identity has the same groups. -/
theorem GroupKey.mem_ofGroups_iff (g : String) (groups : List String) :
    g ∈ (GroupKey.ofGroups groups).groups ↔ g ∈ groups := by
  unfold GroupKey.ofGroups
  induction groups with
  | nil => rfl
  | cons group rest ih =>
      -- The key inserts group by group, from the last one to the first.
      change g ∈ insertGroup group (rest.foldr insertGroup []) ↔ g ∈ group :: rest
      rw [mem_insertGroup_iff, List.mem_cons]
      exact or_congr Iff.rfl ih

namespace TierMapping

theorem sharesGroup_congr {groups groups' : List String} (h : ∀ g, g ∈ groups ↔ g ∈ groups')
    (entry : TierEntry) : sharesGroup groups entry = sharesGroup groups' entry := by
  have hcontains : groups.contains = groups'.contains := by
    funext g
    rw [Bool.eq_iff_iff, List.contains_iff_mem, List.contains_iff_mem]
    exact h g
  unfold sharesGroup
  rw [hcontains]

theorem resolve_congr (mapping : TierMapping) {groups groups' : List String}
    (h : ∀ g, g ∈ groups ↔ g ∈ groups') : mapping.resolve groups = mapping.resolve groups' := by
  have hshares : sharesGroup groups = sharesGroup groups' := funext (sharesGroup_congr h)
  unfold resolve
  rw [hshares]

@[simp] theorem resolve_ofGroups (mapping : TierMapping) (groups : List String) :
    mapping.resolve (GroupKey.ofGroups groups).groups = mapping.resolve groups :=
  mapping.resolve_congr fun g => GroupKey.mem_ofGroups_iff g groups

end TierMapping

/-! ## Entries -/

namespace TierCache

theorem mem_of_mem_shrink {bound steps : Nat} {entries : List CachedTier} {entry : CachedTier}
    (h : entry ∈ shrink bound steps entries) : entry ∈ entries := by
  induction steps generalizing entries with
  | zero => exact h
  | succ steps ih =>
      unfold shrink at h
      split at h
      · exact h
      · exact List.mem_of_mem_eraseP (ih h)

theorem mem_of_mem_makeRoom {cache : TierCache} {key : GroupKey} {now : Duration}
    {entry : CachedTier} (h : entry ∈ cache.makeRoom key now) : entry ∈ cache.entries := by
  unfold makeRoom at h
  split at h
  · exact (List.mem_filter.1 (mem_of_mem_shrink h)).1
  · exact h

theorem mem_put {entry x : CachedTier} {entries : List CachedTier} (h : x ∈ put entry entries) :
    x = entry ∨ x ∈ entries := by
  induction entries with
  | nil => exact Or.inl (List.mem_singleton.1 h)
  | cons other rest ih =>
      unfold put at h
      split at h
      · rcases List.mem_cons.1 h with hx | hx
        · exact Or.inl hx
        · exact Or.inr (List.mem_cons_of_mem _ hx)
      · rcases List.mem_cons.1 h with rfl | hx
        · exact Or.inr List.mem_cons_self
        · rcases ih hx with hentry | hrest
          · exact Or.inl hentry
          · exact Or.inr (List.mem_cons_of_mem _ hrest)

theorem fresh?_eq_some {cache : TierCache} {key : GroupKey} {now : Duration} {entry : CachedTier}
    (h : cache.fresh? key now = some entry) :
    entry ∈ cache.entries ∧ entry.key = key ∧ now < entry.expiresAt := by
  unfold fresh? find? at h
  obtain ⟨hfind, hnow⟩ := Option.filter_eq_some_iff.1 h
  have hkey := List.find?_some hfind
  exact ⟨List.mem_of_find?_eq_some hfind, by simpa using hkey, by simpa using hnow⟩

/-! ## A resolution -/

variable {cache : TierCache} {mapping : TierMapping} {now : Duration} {key : GroupKey}

/-- A fresh entry is the answer, and the cache stays as it is: a hit extends no entry's life. -/
theorem resolve_of_fresh {entry : CachedTier} (h : cache.fresh? key now = some entry) :
    cache.resolve mapping now key = (.ok entry.tier, cache) := by
  unfold resolve
  rw [h]

/-- Without a fresh entry the answer is that of the mapping, unless the end of its time to live
cannot be shown; room is made in both cases. -/
theorem resolve_of_stale (h : cache.fresh? key now = none) :
    cache.resolve mapping now key =
      match expiry? now cache.ttl with
      | none => (.error .unrepresentable, ⟨cache.ttl, cache.capacity, cache.makeRoom key now⟩)
      | some expiresAt => (.ok (mapping.resolve key.groups), ⟨cache.ttl, cache.capacity,
          put ⟨key, mapping.resolve key.groups, expiresAt⟩ (cache.makeRoom key now)⟩) := by
  unfold resolve
  cases expiry? now cache.ttl with
  | none => simp only [h]
  | some expiresAt => simp only [h]

/-- What is answered comes from a fresh entry or from the mapping. -/
theorem resolve_eq_ok {tier : Option Tier} (h : (cache.resolve mapping now key).1 = .ok tier) :
    tier = mapping.resolve key.groups ∨
      ∃ entry ∈ cache.entries, entry.key = key ∧ now < entry.expiresAt ∧ tier = entry.tier := by
  cases hfresh : cache.fresh? key now with
  | some entry =>
      rw [resolve_of_fresh hfresh] at h
      obtain ⟨hmem, hkey, hnow⟩ := fresh?_eq_some hfresh
      exact Or.inr ⟨entry, hmem, hkey, hnow, (Except.ok.inj h).symm⟩
  | none =>
      rw [resolve_of_stale hfresh] at h
      cases hexpiry : expiry? now cache.ttl with
      | none =>
          simp only [hexpiry] at h
          cases h
      | some expiresAt =>
          simp only [hexpiry] at h
          exact Or.inl (Except.ok.inj h).symm

theorem expiry?_eq_some {ttl expiresAt : Duration} (h : expiry? now ttl = some expiresAt) :
    expiresAt = now + ttl := by
  unfold expiry? at h
  split at h
  · exact (Option.some.inj h).symm
  · cases h

theorem expiry?_eq_none_iff {ttl : Duration} :
    expiry? now ttl = none ↔ 2 ^ 63 ≤ (now + ttl).seconds := by
  unfold expiry?
  have hbound : 1 <<< 63 = 2 ^ 63 := by decide
  rw [hbound]
  split <;> simp_all

/-- A resolution fails if and only if it is a new one and would be kept beyond the last second that
a clock can show. -/
theorem resolve_eq_error_iff {error : ExpiryError} :
    (cache.resolve mapping now key).1 = .error error ↔
      cache.fresh? key now = none ∧ 2 ^ 63 ≤ (now + cache.ttl).seconds := by
  cases hfresh : cache.fresh? key now with
  | some entry =>
      rw [resolve_of_fresh hfresh]
      simp
  | none =>
      rw [← expiry?_eq_none_iff, resolve_of_stale hfresh]
      cases hexpiry : expiry? now cache.ttl with
      | none => simp
      | some expiresAt => simp

/-- An entry after a resolution was there before, or it holds what the mapping says now. -/
theorem mem_entries_resolve {entry : CachedTier}
    (h : entry ∈ (cache.resolve mapping now key).2.entries) :
    entry ∈ cache.entries ∨ entry = ⟨key, mapping.resolve key.groups, now + cache.ttl⟩ := by
  cases hfresh : cache.fresh? key now with
  | some hit =>
      rw [resolve_of_fresh hfresh] at h
      exact Or.inl h
  | none =>
      rw [resolve_of_stale hfresh] at h
      cases hexpiry : expiry? now cache.ttl with
      | none =>
          -- Nothing is kept without an expiry, but room was made before.
          simp only [hexpiry] at h
          exact Or.inl (mem_of_mem_makeRoom h)
      | some expiresAt =>
          simp only [hexpiry] at h
          rw [expiry?_eq_some hexpiry] at h
          rcases mem_put h with hnew | hkept
          · exact Or.inr hnew
          · exact Or.inl (mem_of_mem_makeRoom hkept)

theorem ttl_resolve : (cache.resolve mapping now key).2.ttl = cache.ttl := by
  unfold resolve
  split
  · rfl
  · dsimp only
    split <;> rfl

end TierCache

end ModelGate

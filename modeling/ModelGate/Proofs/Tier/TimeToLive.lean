import ModelGate.CommandLine.Settings
import ModelGate.Proofs.Text.Decimal
import ModelGate.Proofs.Tier.Eviction

/-!
# Times to live and the end of the clock

The command line takes any 64-bit number of seconds as the time to live of a tier
(`exists_settings_iff`), but a clock ends at 63 bits.  So an identity that has to be resolved anew is
answered if and only if its time to live ends on the clock.  Otherwise the resolution fails, behind
the point where it has made room: in a full cache it displaces the entries of others, and keeps
nothing.

A time to live of `2 ^ 63` seconds or more is one with which nobody is ever answered
(`ttl_ends_on_clock`).
-/

namespace ModelGate

/-! ## The option -/

namespace CommandLine

variable {flag : Flag} {text : String}

namespace Taken

theorem takeLong_name (flag : Flag) :
    takeLong ⟨[], none⟩ flag.name.toList = .ok ⟨[], some (flag, none)⟩ := by
  have hsplit : splitAttached flag.name.toList = (flag.name, none) := by
    cases flag <;> decide +kernel
  have hflag : Flag.ofName? flag.name = some flag := by
    cases flag <;> decide +kernel
  unfold takeLong
  simp only [hsplit, hflag]
  rfl

/-- What does not start with a hyphen is the value of the option before it. -/
theorem takeAll_value (h : text.toList.head? ≠ some '-') :
    takeAll ⟨[], some (flag, none)⟩ [text] = settle ⟨[], some (flag, some text)⟩ := by
  rw [takeAll]
  split
  · next heq => simp [heq] at h
  · next heq => simp [heq] at h
  · next heq => simp [heq] at h
  · rfl

theorem settle_of_valid (h : flag.fault? text = none) :
    settle ⟨[], some (flag, some text)⟩ = .ok ⟨[(flag, text)], none⟩ := by
  unfold settle accept
  simp [h]

/-- An option and its value are taken if the value is valid. -/
theorem takeAll_option (hvalue : text.toList.head? ≠ some '-') (hvalid : flag.fault? text = none) :
    takeAll ⟨[], none⟩ ["--" ++ flag.name, text] = .ok ⟨[(flag, text)], none⟩ := by
  obtain ⟨c, cs, hname⟩ : ∃ c cs, flag.name.toList = c :: cs := by
    cases flag <;> exact ⟨_, _, rfl⟩
  have hlong := takeLong_name flag
  rw [hname] at hlong
  have hhyphens : ("--" ++ flag.name).toList = '-' :: '-' :: c :: cs := by
    rw [String.toList_append, hname]
    rfl
  rw [takeAll]
  simp only [hhyphens, hlong]
  change takeAll _ [text] = _
  rw [takeAll_value hvalue, settle_of_valid hvalid]

end Taken

theorem parse_option (hvalue : text.toList.head? ≠ some '-') (hvalid : flag.fault? text = none) :
    parse ["--" ++ flag.name, text] [] = .ok (Taken.settings ⟨[(flag, text)], none⟩) := by
  unfold parse
  rw [Taken.takeAll_option hvalue hvalid]
  rfl

theorem unsigned?_toString {bound n : Nat} (h : n < bound) :
    Flag.unsigned? bound (toString n) = some n := by
  have hdigits := Flag.digits?_toDigits n
  unfold Flag.unsigned?
  rw [toList_toString_nat]
  split
  · next rest heq =>
    -- A number is printed without a sign.
    have hsign := @isDigit_of_mem_toDigits n '+' (by simp [heq])
    cases hsign
  · dsimp only
    rw [hdigits]
    simp [Option.filter, h]

/-- The settings may hold any 64-bit number of seconds as the time to live, and no other one. -/
theorem exists_settings_iff (seconds : Nat) :
    (∃ arguments environment settings, parse arguments environment = .ok settings ∧
      settings.tierCacheTtlSecs = seconds) ↔ seconds < 2 ^ 64 := by
  constructor
  · rintro ⟨arguments, environment, settings, hparse, rfl⟩
    obtain ⟨taken, rfl⟩ : ∃ taken : Taken, settings = taken.settings := by
      unfold parse at hparse
      cases htaken : Taken.takeAll ⟨[], none⟩ arguments with
      | error error =>
          rw [htaken] at hparse
          cases hparse
      | ok taken =>
          rw [htaken] at hparse
          cases hall : Flag.all.foldlM (Taken.takeVariable environment) taken with
          | error error =>
              simp only [bind, Except.bind, hall] at hparse
              cases hparse
          | ok taken =>
              simp only [bind, Except.bind, hall] at hparse
              cases hparse
              exact ⟨taken, rfl⟩
    change (Flag.unsigned? UInt64.size _).getD 0 < UInt64.size
    cases hnumber : Flag.unsigned? UInt64.size (taken.text .tierCacheTtlSecs) with
    | none => decide
    | some n => simpa using (Option.filter_eq_some_iff.1 hnumber).2
  · intro h
    have hnumber : Flag.unsigned? UInt64.size (toString seconds) = some seconds :=
      unsigned?_toString h
    have hvalue : (toString seconds).toList.head? ≠ some '-' := by
      intro hhead
      rw [toList_toString_nat] at hhead
      cases isDigit_of_mem_toDigits (List.mem_of_head? hhead)
    have hvalid : Flag.tierCacheTtlSecs.fault? (toString seconds) = none := by
      unfold Flag.fault?
      simp only [hnumber]
      rfl
    refine ⟨_, _, _, parse_option hvalue hvalid, ?_⟩
    change (Flag.unsigned? UInt64.size (toString seconds)).getD 0 = seconds
    rw [hnumber]
    rfl

end CommandLine

/-! ## A resolution -/

namespace TierCache

variable {cache cache' : TierCache} {mapping : TierMapping} {now : Duration} {key : GroupKey}
  {kept : List CachedTier} {error : ExpiryError}

/-- An identity is answered if it is kept, or if the end of its time to live is on the clock. -/
theorem IsKept.answered_iff (h : cache.IsKept) :
    (∃ tier, (cache.resolve mapping now key).1 = .ok tier) ↔
      (∃ entry ∈ cache.entries, entry.key = key ∧ now < entry.expiresAt) ∨
        (now + cache.ttl).seconds < 2 ^ 63 := by
  have hresolves := h.resolves mapping now key
  generalize cache.resolve mapping now key = result at hresolves ⊢
  cases hresolves with
  | hit hmem hkey hfresh => exact iff_of_true ⟨_, rfl⟩ (Or.inl ⟨_, hmem, hkey, hfresh⟩)
  | stored hstale hroom hstored hexpiry => exact iff_of_true ⟨_, rfl⟩ (Or.inr hexpiry)
  | failed hstale hroom hexpiry =>
      refine iff_of_false (fun ⟨tier, htier⟩ => by cases htier) ?_
      rintro (⟨entry, hmem, hkey, hfresh⟩ | hearly)
      · exact Nat.not_lt.2 (hstale entry hmem hkey) hfresh
      · exact Nat.not_lt.2 hexpiry hearly

/-- Room takes nothing from the cache if the identity has an entry or the cache is not full. -/
theorem MakesRoom.eq_entries_iff (h : MakesRoom cache key now kept) :
    kept = cache.entries ↔
      (∃ entry ∈ cache.entries, entry.key = key) ∨ cache.size < cache.capacity := by
  have hfullNew (hnew : ∀ entry ∈ cache.entries, entry.key ≠ key)
      (hfull : cache.size = cache.capacity) :
      ¬ ((∃ entry ∈ cache.entries, entry.key = key) ∨ cache.size < cache.capacity) := by
    rintro (⟨entry, hmem, hkey⟩ | hless)
    · exact hnew entry hmem hkey
    · exact Nat.ne_of_lt hless hfull
  cases h with
  | known h hkey => exact iff_of_true rfl (Or.inl ⟨_, h, hkey⟩)
  | free hnew h => exact iff_of_true rfl (Or.inr h)
  | expired hnew hfull h hexpired =>
      refine iff_of_false (fun hall => ?_) (hfullNew hnew hfull)
      have hlive := List.filter_eq_self.1 hall _ h
      exact Nat.not_lt.2 hexpired (of_decide_eq_true hlive)
  | next hnew hfull hlive hentries hnext =>
      refine iff_of_false (fun hall => ?_) (hfullNew hnew hfull)
      have hlength := congrArg List.length (hall.trans hentries)
      simp at hlength

end TierCache

/-! ## Runs -/

namespace CachedMapping

variable {seconds capacity : Nat} {events : List CacheEvent} {s : CachedMapping}

theorem seconds_add_ofSeconds (now : Duration) (n : Nat) :
    (now + .ofSeconds n).seconds = now.seconds + n :=
  Nat.add_mul_div_right now n (by decide)

/-- A resolution in an empty cache fails if the time to live does not end on the clock. -/
theorem resolve_of_endless {cache : TierCache} (hkept : cache.IsKept) (hempty : cache.entries = [])
    (mapping : TierMapping) (now : Duration) (key : GroupKey)
    (hlate : 2 ^ 63 ≤ (now + cache.ttl).seconds) :
    (cache.resolve mapping now key).1 = .error .unrepresentable ∧
      (cache.resolve mapping now key).2.entries = [] := by
  have hresolves := hkept.resolves mapping now key
  generalize cache.resolve mapping now key = result at hresolves ⊢
  cases hresolves with
  | hit hmem hkey hfresh =>
      rw [hempty] at hmem
      cases hmem
  | stored hstale hroom hstored hexpiry => exact absurd hexpiry (Nat.not_lt.2 hlate)
  | failed hstale hroom hexpiry =>
      have hsublist := hroom.sublist
      rw [hempty] at hsublist
      exact ⟨rfl, List.sublist_nil.1 hsublist⟩

/-- With a time to live that is longer than the clock nothing is ever kept. -/
theorem entries_run_of_endless (h : 2 ^ 63 ≤ seconds) :
    (run (.ofSeconds seconds) capacity events).cache.entries = [] := by
  induction events using List.reverseRecOn with
  | nil => rfl
  | append_singleton events e ih =>
      rw [run_append_singleton]
      cases e with
      | resolved key =>
          refine (resolve_of_endless (isKept_run _ _ events) ih _ _ key ?_).2
          rw [(bounds_run _ _ events).1, seconds_add_ofSeconds]
          exact h.trans (Nat.le_add_left _ _)
      | waited span => exact ih
      | replaced mapping => exact ih

/-- What a resolution comes to with a time to live of some seconds. -/
structure EndsOnClock (seconds : Nat) (s : CachedMapping) : Prop where
  answered_iff : ∀ key, (∃ tier, (s.cache.resolve s.mapping s.now key).1 = .ok tier) ↔
    (∃ entry ∈ s.cache.entries, entry.key = key ∧ s.now < entry.expiresAt) ∨
      s.now.seconds + seconds < 2 ^ 63
  /-- All that is left of a resolution that fails is the room that was made for it. -/
  room_is_left : ∀ {key error cache'},
    s.cache.resolve s.mapping s.now key = (.error error, cache') →
    s.cache.MakesRoom key s.now cache'.entries
  /-- It displaces no other identity as long as the cache is not full. -/
  displaces_none_iff : ∀ {key error cache'},
    s.cache.resolve s.mapping s.now key = (.error error, cache') →
    (cache'.entries = s.cache.entries ↔
      (∃ entry ∈ s.cache.entries, entry.key = key) ∨ s.cache.size < s.cache.capacity)
  /-- A time to live that is longer than the clock keeps nothing and answers nobody. -/
  endless : 2 ^ 63 ≤ seconds → s.cache.entries = [] ∧
    ∀ key, (s.cache.resolve s.mapping s.now key).1 = .error .unrepresentable

/-- Any 64-bit number of seconds may be set as the time to live.  After any run of a cache with that
time to live, a resolution is answered if and only if it is a hit or the time to live ends on the
clock; one that is not answered has made room all the same. -/
theorem ttl_ends_on_clock (seconds : Nat) :
    ((∃ arguments environment settings,
        CommandLine.parse arguments environment = .ok settings ∧
        settings.tierCacheTtlSecs = seconds) ↔ seconds < 2 ^ 64) ∧
      ∀ capacity events, EndsOnClock seconds (run (.ofSeconds seconds) capacity events) := by
  refine ⟨CommandLine.exists_settings_iff seconds, fun capacity events => ?_⟩
  have hkept := isKept_run (.ofSeconds seconds) capacity events
  have httl := (bounds_run (.ofSeconds seconds) capacity events).1
  have hempty (h : 2 ^ 63 ≤ seconds) := @entries_run_of_endless seconds capacity events h
  generalize run (.ofSeconds seconds) capacity events = s at hkept httl hempty ⊢
  have hroom {key error cache'}
      (hresolve : s.cache.resolve s.mapping s.now key = (.error error, cache')) :
      s.cache.MakesRoom key s.now cache'.entries := by
    obtain ⟨-, kept, hroom, rfl⟩ := TierCache.late_of_resolve_eq_error hkept hresolve
    exact hroom
  refine ⟨fun key => ?_, hroom, fun hresolve => (hroom hresolve).eq_entries_iff, fun h => ?_⟩
  · rw [hkept.answered_iff, httl, seconds_add_ofSeconds]
  · refine ⟨hempty h, fun key => (resolve_of_endless hkept (hempty h) _ _ key ?_).1⟩
    rw [httl, seconds_add_ofSeconds]
    exact h.trans (Nat.le_add_left _ _)

/-- Shortly before the end of the clock a new identity displaces another one for nothing. -/
example :
    let s := run (.ofSeconds (2 ^ 63 - 10)) 1 [.resolved ⟨["all"]⟩, .waited (.ofSeconds 20)]
    let (answer, cache) := s.cache.resolve s.mapping s.now ⟨["guests"]⟩
    answer = .error .unrepresentable ∧ s.cache.size = 1 ∧ cache.size = 0 := by
  cbv

end CachedMapping

end ModelGate

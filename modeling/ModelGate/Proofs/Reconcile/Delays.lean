import Mathlib
import ModelGate.Reconcile.Records

/-!
# The delays of the standard backoff

The delay doubles from one second with every failure that is counted, up to five minutes.  The
count of an object is only changed by its own failures and resets, and although it stays within 32
bits, no delay differs from that of the true count.
-/

namespace ModelGate

namespace Backoff

variable {b : Backoff}

theorem count_reset (b : Backoff) (id other : ObjectId) :
    (b.reset id).count other = if other = id then 0 else b.count other := by
  unfold count reset
  rw [List.find?_filter]
  by_cases h : other = id
  · rw [if_pos h, List.find?_eq_none.2]
    · rfl
    · intro f hf
      simp [h]
  · rw [if_neg h]
    congr 2
    funext f
    by_cases hf : f.id = other
    · simp [hf, h]
    · simp [hf]

theorem count_next (b : Backoff) (id other : ObjectId) :
    (b.next id).2.count other =
      if other = id then min (b.count id + 1) (UInt32.size - 1) else b.count other := by
  by_cases h : other = id
  · subst h
    unfold next count
    simp
  · rw [if_neg h, ← (if_neg h : (if other = id then 0 else b.count other) = b.count other),
      ← count_reset b id other]
    unfold next count
    simp [Ne.symm h]

/-- The bounds of the delays are the standard ones. -/
structure IsStandard (b : Backoff) : Prop where
  shortest : b.shortest = Duration.ofSeconds 1
  longest : b.longest = Duration.ofSeconds 300

theorem isStandard_standard : standard.IsStandard :=
  ⟨rfl, rfl⟩

theorem IsStandard.reset (h : b.IsStandard) (id : ObjectId) : (b.reset id).IsStandard :=
  ⟨h.shortest, h.longest⟩

theorem IsStandard.next (h : b.IsStandard) (id : ObjectId) : (b.next id).2.IsStandard :=
  ⟨h.shortest, h.longest⟩

/-- The delay doubles from one second up to five minutes. -/
theorem IsStandard.delay_eq (h : b.IsStandard) (count : Nat) :
    b.delay count = Duration.ofSeconds (min (2 ^ count) 300) := by
  unfold delay factor
  rw [h.shortest, h.longest, Nat.one_shiftLeft]
  unfold Duration.ofSeconds Duration.longest UInt32.size UInt64.size
  by_cases hcount : count < 32
  · have hpow : 2 ^ count < 2 ^ 32 := Nat.pow_lt_pow_right (by decide) hcount
    simp only [if_pos hcount]
    generalize 2 ^ count = power at hpow
    -- The product fits, so that only the longest delay cuts it.
    have hfits : 1 * 1000000000 * power ≤ 18446744073709551616 * 1000000000 - 1 := by omega
    have hscale : min (1 * 1000000000 * power) (300 * 1000000000) = min power 300 * 1000000000 := by
      omega
    rw [if_pos hfits]
    exact hscale
  · have hpow : 2 ^ 32 ≤ 2 ^ count := Nat.pow_le_pow_right (by decide) (Nat.not_lt.1 hcount)
    simp only [if_neg hcount]
    generalize 2 ^ count = power at hpow
    -- The factor is as great as it gets, and both sides are the longest delay.
    have hscale : 300 * 1000000000 = min power 300 * 1000000000 := by omega
    rw [if_pos (by decide)]
    exact hscale

/-- From the ninth failure on the delays are all the same. -/
theorem min_two_pow_of_nine_le {n : Nat} (h : 9 ≤ n) : min (2 ^ n) 300 = 300 := by
  have hpow : 2 ^ 9 ≤ 2 ^ n := Nat.pow_le_pow_right (by decide) h
  exact Nat.min_eq_right (Nat.le_trans (by decide) hpow)

/-- A count that has reached its bound gives the delay of every greater one. -/
theorem IsStandard.delay_min (h : b.IsStandard) {bound : Nat} (hbound : 9 ≤ bound) (count : Nat) :
    b.delay (min count bound) = b.delay count := by
  rw [h.delay_eq, h.delay_eq]
  by_cases hcount : count ≤ bound
  · rw [Nat.min_eq_left hcount]
  · have hle : bound ≤ count := Nat.le_of_lt (Nat.not_le.1 hcount)
    rw [Nat.min_eq_right hle, min_two_pow_of_nine_le hbound,
      min_two_pow_of_nine_le (Nat.le_trans hbound hle)]

end Backoff

end ModelGate

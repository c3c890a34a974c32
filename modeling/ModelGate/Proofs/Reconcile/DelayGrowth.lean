import Mathlib
import ModelGate.Proofs.Reconcile.Delays

/-!
# How the delays grow

A backoff is asked for delays and to start objects over, in any order and for many objects.
`delay_of_calls` says which delay it gives, for all bounds: the shortest one times a factor that
doubles from failure to failure, cut at the longest one.  The factor stays within 32 bits, so it
doubles no more from the thirty-third failure on.  The theorem says exactly when this shows: only
if the longest delay is more than `2 ^ 32 - 1` times the shortest one.
-/

namespace ModelGate.Backoff

variable {shortest longest : Duration}

/-- What a backoff is asked to do: to count one more failure of an object, or to forget them. -/
inductive Call where
  | next (id : ObjectId)
  | reset (id : ObjectId)
  deriving DecidableEq, Repr

/-- The object that a call is about. -/
def Call.object : Call → ObjectId
  | .next id => id
  | .reset id => id

/-- The backoff behind a call. -/
def perform (b : Backoff) : Call → Backoff
  | .next id => (b.next id).2
  | .reset id => b.reset id

/-- The backoff with the given bounds after some calls. -/
def after (shortest longest : Duration) (calls : List Call) : Backoff :=
  calls.foldl perform (new shortest longest)

theorem after_append_singleton (shortest longest : Duration) (calls : List Call) (c : Call) :
    after shortest longest (calls ++ [c]) = (after shortest longest calls).perform c := by
  unfold after
  rw [List.foldl_append]
  rfl

/-! ## Counting -/

/-- How often an object failed since it last started over. -/
def failuresSinceReset (id : ObjectId) (calls : List Call) : Nat :=
  (calls.reverse.takeWhile (· ≠ .reset id)).count (.next id)

theorem failuresSinceReset_append_singleton (id : ObjectId) (calls : List Call) (c : Call) :
    failuresSinceReset id (calls ++ [c]) =
      if c = .reset id then 0
      else failuresSinceReset id calls + if c = .next id then 1 else 0 := by
  unfold failuresSinceReset
  rw [List.reverse_append, List.reverse_singleton, List.singleton_append, List.takeWhile_cons]
  by_cases hreset : c = .reset id
  · simp [hreset]
  · simp [hreset, List.count_cons]

/-- Calls about other objects do not count. -/
theorem failuresSinceReset_filter (id : ObjectId) (calls : List Call) :
    failuresSinceReset id (calls.filter (·.object = id)) = failuresSinceReset id calls := by
  induction calls using List.reverseRecOn with
  | nil => rfl
  | append_singleton calls c ih =>
      rw [List.filter_append, failuresSinceReset_append_singleton]
      by_cases hid : c.object = id
      · rw [List.filter_cons_of_pos (by simpa using hid), List.filter_nil,
          failuresSinceReset_append_singleton, ih]
      · rw [List.filter_cons_of_neg (by simpa using hid), List.filter_nil, List.append_nil, ih]
        have hreset : c ≠ .reset id := fun h => hid (by rw [h]; rfl)
        have hnext : c ≠ .next id := fun h => hid (by rw [h]; rfl)
        rw [if_neg hreset, if_neg hnext, Nat.add_zero]

/-- The counts follow the calls, within 32 bits. -/
theorem count_after (shortest longest : Duration) (id : ObjectId) (calls : List Call) :
    (after shortest longest calls).count id =
      min (failuresSinceReset id calls) (UInt32.size - 1) := by
  induction calls using List.reverseRecOn with
  | nil => rfl
  | append_singleton calls c ih =>
      rw [after_append_singleton, failuresSinceReset_append_singleton]
      cases c with
      | next other =>
          change (next _ other).2.count id = _
          simp only [count_next, reduceCtorEq, if_false, Call.next.injEq]
          by_cases hid : id = other
          · subst hid
            rw [if_pos rfl, if_pos rfl, ih]
            generalize UInt32.size - 1 = bound
            omega
          · rw [if_neg hid, if_neg (Ne.symm hid), ih, Nat.add_zero]
      | reset other =>
          change (reset _ other).count id = _
          simp only [count_reset, reduceCtorEq, if_false, Call.reset.injEq, Nat.add_zero]
          by_cases hid : id = other
          · rw [if_pos hid, if_pos hid.symm, Nat.zero_min]
          · rw [if_neg hid, if_neg (Ne.symm hid), ih]

theorem bounds_after (shortest longest : Duration) (calls : List Call) :
    (after shortest longest calls).shortest = shortest ∧
      (after shortest longest calls).longest = max shortest longest := by
  induction calls using List.reverseRecOn with
  | nil => exact ⟨rfl, Nat.max_comm longest shortest⟩
  | append_singleton calls c ih =>
      rw [after_append_singleton]
      cases c with
      | next other => exact ih
      | reset other => exact ih

/-! ## Delays -/

/-- The shortest delay times a factor, cut at the longest delay; what is too long for a duration is
cut as well. -/
def cut (shortest longest : Duration) (factor : Nat) : Duration :=
  if shortest * factor ≤ Duration.longest then min (shortest * factor) (max shortest longest)
  else max shortest longest

theorem factor_eq (count : Nat) : factor count = if count < 32 then 2 ^ count else 2 ^ 32 - 1 := by
  unfold factor
  rw [Nat.one_shiftLeft]
  rfl

/-- From 32 failures on the factor is the same, so a count that has reached its bound gives the
factor of every greater one. -/
theorem factor_min {bound : Nat} (hbound : 32 ≤ bound) (count : Nat) :
    factor (min count bound) = factor count := by
  by_cases hcount : count ≤ bound
  · rw [Nat.min_eq_left hcount]
  · have hle : bound ≤ count := Nat.le_of_lt (Nat.not_le.1 hcount)
    rw [Nat.min_eq_right hle, factor_eq, factor_eq, if_neg (by omega), if_neg (by omega)]

theorem next_after (shortest longest : Duration) (calls : List Call) (id : ObjectId) :
    ((after shortest longest calls).next id).1 =
      cut shortest longest (factor (failuresSinceReset id calls)) := by
  obtain ⟨hshortest, hlongest⟩ := bounds_after shortest longest calls
  change (after shortest longest calls).delay ((after shortest longest calls).count id) = _
  have hbound : 32 ≤ UInt32.size - 1 := by decide
  unfold delay cut
  rw [hshortest, hlongest, count_after, factor_min hbound]

theorem cut_of_lt {less more most limit : Nat} (h : less < more) :
    ((if less ≤ limit then min less most else most) =
      if more ≤ limit then min more most else most) ↔
      (if less ≤ limit then min less most else most) = most := by
  split_ifs <;> omega

/-- A greater factor gives a longer delay, unless the delay is zero or already the longest one. -/
theorem cut_eq_cut_iff {small great : Nat} (h : small < great) :
    cut shortest longest small = cut shortest longest great ↔
      shortest = 0 ∨ cut shortest longest small = max shortest longest := by
  rcases Nat.eq_zero_or_pos shortest with hzero | hpos
  · subst hzero
    simp [cut]
  · rw [or_iff_right (Nat.ne_of_gt hpos)]
    exact cut_of_lt (Nat.mul_lt_mul_of_pos_left h hpos)

/-- Whatever a backoff was asked before, the next delay of an object is its shortest one doubled
with every failure since the object last started over, as long as the factor has 32 bits; and what
was asked about other objects plays no part.  The delay is that of unbounded doubling if and only if
there are less than 32 failures, or doubling changes nothing any more. -/
theorem delay_of_calls (shortest longest : Duration) (calls : List Call) (id : ObjectId) :
    ((after shortest longest calls).next id).1 =
        cut shortest longest (if failuresSinceReset id calls < 32
          then 2 ^ failuresSinceReset id calls else 2 ^ 32 - 1) ∧
      (((after shortest longest calls).next id).1 =
          cut shortest longest (2 ^ failuresSinceReset id calls) ↔
        failuresSinceReset id calls < 32 ∨ shortest = 0 ∨
          cut shortest longest (2 ^ 32 - 1) = max shortest longest) ∧
      ((after shortest longest calls).next id).1 =
        ((after shortest longest (calls.filter (·.object = id))).next id).1 := by
  refine ⟨?_, ?_, ?_⟩
  · rw [next_after, factor_eq]
  · rw [next_after, factor_eq]
    by_cases hcount : failuresSinceReset id calls < 32
    · simp [hcount]
    · have hpow : 2 ^ 32 ≤ 2 ^ failuresSinceReset id calls :=
        Nat.pow_le_pow_right (by decide) (Nat.not_lt.1 hcount)
      rw [if_neg hcount, cut_eq_cut_iff (by omega)]
      simp [hcount]
  · rw [next_after, next_after, failuresSinceReset_filter]

/-- The thirty-third delay is one nanosecond short of the double of the one before. -/
example : ((after 1 (Duration.ofSeconds 3600)
    (List.replicate 32 (.next ⟨"n", "m"⟩))).next ⟨"n", "m"⟩).1 = 2 ^ 32 - 1 := by
  decide +kernel

end ModelGate.Backoff

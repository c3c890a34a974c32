import Mathlib
import ModelGate.Reconcile.Schedule
import ModelGate.Simulation.Table

/-!
# Looking things up

The members of a JSON object, the objects of a cluster and the times of a schedule stand in lists of
pairs, in which the first pair with a key counts.  Each lemma says what is found under any key once
such a list has changed under one key.
-/

namespace ModelGate

section

variable {κ α : Type} [BEq κ] [LawfulBEq κ] [DecidableEq κ]

theorem lookup_cons_ite (name key : κ) (value : α) (pairs : List (κ × α)) :
    List.lookup key ((name, value) :: pairs) =
      if key = name then some value else pairs.lookup key := by
  by_cases h : key = name
  · simp [h]
  · have hbeq : (key == name) = false := by simpa using h
    rw [List.lookup_cons, hbeq, if_neg h]

theorem lookup_filter_ne (name key : κ) (pairs : List (κ × α)) :
    (pairs.filter (·.1 != name)).lookup key = if key = name then none else pairs.lookup key := by
  induction pairs with
  | nil => simp
  | cons pair rest ih =>
      obtain ⟨other, value⟩ := pair
      by_cases hother : other = name
      · subst hother
        rw [List.filter_cons_of_neg (by simp), ih, lookup_cons_ite]
        by_cases h : key = other
        · rw [if_pos h, if_pos h]
        · rw [if_neg h, if_neg h, if_neg h]
      · rw [List.filter_cons_of_pos (by simpa using hother), lookup_cons_ite, lookup_cons_ite, ih]
        by_cases h : key = other
        · rw [if_pos h, if_pos h, if_neg (by rwa [h])]
        · rw [if_neg h, if_neg h]

end

namespace Table

variable {α : Type}

theorem get?_erase (t : Table α) (id other : ObjectId) :
    (t.erase id).get? other = if other = id then none else t.get? other :=
  lookup_filter_ne id other t.entries

theorem get?_insert (t : Table α) (id other : ObjectId) (a : α) :
    (t.insert id a).get? other = if other = id then some a else t.get? other := by
  change ((id, a) :: (t.erase id).entries).lookup other = _
  rw [lookup_cons_ite]
  by_cases h : other = id
  · rw [if_pos h, if_pos h]
  · have herase := t.get?_erase id other
    rw [if_neg h] at herase ⊢
    rw [if_neg h]
    exact herase

end Table

namespace Schedule

theorem time?_erase (s : Schedule) (id other : ObjectId) :
    (s.erase id).time? other = if other = id then none else s.time? other :=
  lookup_filter_ne id other s.entries

/-- The time of an object that somebody asks to look at by another time. -/
def sooner (former : Option Duration) (time : Duration) : Duration :=
  former.elim time (min time)

theorem time?_request (s : Schedule) (id other : ObjectId) (time : Duration) :
    (s.request id time).time? other =
      if other = id then some (sooner (s.time? id) time) else s.time? other := by
  have happend (pairs : List (ObjectId × Duration)) :
      (pairs ++ [(id, time)]).lookup other =
        (pairs.lookup other).or (if other = id then some time else none) := by
    rw [List.lookup_append, lookup_cons_ite, List.lookup_nil]
  unfold request
  cases hformer : s.time? id with
  | none =>
      change (s.entries ++ [(id, time)]).lookup other = _
      rw [happend]
      by_cases h : other = id
      · subst h
        change (s.time? other).or _ = _
        rw [hformer]
        simp [sooner]
      · rw [if_neg h, if_neg h, Option.or_none]
        rfl
  | some old =>
      dsimp only
      by_cases hold : old < time
      · rw [if_pos hold]
        by_cases h : other = id
        · subst h
          rw [if_pos rfl, hformer]
          simp [sooner, Nat.min_eq_right hold.le]
        · rw [if_neg h]
      · rw [if_neg hold]
        change ((s.erase id).entries ++ [(id, time)]).lookup other = _
        rw [happend]
        change ((s.erase id).time? other).or _ = _
        rw [time?_erase]
        by_cases h : other = id
        · rw [if_pos h, if_pos h, if_pos h]
          simp [sooner, Nat.min_eq_left (Nat.le_of_not_lt hold)]
        · rw [if_neg h, if_neg h, if_neg h, Option.or_none]

/-- Several objects are scheduled, and the others are left alone. -/
theorem time?_requestAll (s : Schedule) (ids : List ObjectId) (other : ObjectId)
    (time : Duration) :
    (s.requestAll ids time).time? other =
      if other ∈ ids then some (sooner (s.time? other) time) else s.time? other := by
  unfold requestAll
  induction ids generalizing s with
  | nil => simp
  | cons id rest ih =>
      rw [List.foldl_cons, ih, time?_request]
      by_cases h : other = id
      · subst h
        rw [if_pos rfl, if_pos List.mem_cons_self]
        -- Whoever is asked for once more at the same time is not looked at any sooner.
        have hagain : sooner (some (sooner (s.time? other) time)) time =
            sooner (s.time? other) time := by
          cases s.time? other <;> simp [sooner]
        rw [hagain, ite_self]
      · simp only [if_neg h, List.mem_cons, or_iff_right h]

end Schedule

end ModelGate

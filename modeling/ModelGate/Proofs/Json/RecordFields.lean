import ModelGate.Json.Record
import ModelGate.Proofs.Lookup

/-!
# Fields of records that were written

A record is written as an object, in which what is missing is left out.  Each kind of field has one
lemma that says what it is read as again, from the value that stands under its name.
-/

namespace ModelGate.Json

/-! ## Members of objects -/

@[simp]
theorem lookup_optional (name key : String) (value : Option Json) :
    (optional name value).lookup key = if key = name then value else none := by
  cases value with
  | none => simp [optional]
  | some v => exact lookup_cons_ite name key v []

theorem lookup_setMember (name key : String) (value : Json) (members : List (String × Json)) :
    (setMember name value members).lookup key =
      if key = name then some value else members.lookup key := by
  induction members with
  | nil => exact lookup_cons_ite name key value []
  | cons member rest ih =>
      obtain ⟨other, old⟩ := member
      unfold setMember
      by_cases hother : other = name
      · subst hother
        rw [if_pos rfl, lookup_cons_ite, lookup_cons_ite]
        by_cases h : key = other
        · rw [if_pos h, if_pos h]
        · rw [if_neg h, if_neg h, if_neg h]
      · rw [if_neg hother, lookup_cons_ite, lookup_cons_ite, ih]
        by_cases h : key = other
        · have hne : key ≠ name := by
            rw [h]
            exact hother
          rw [if_pos h, if_pos h, if_neg hne]
        · rw [if_neg h, if_neg h]

/-! ## Reading what was written -/

section

variable {α : Type} {read : Json → Option α} {write : α → Json}

theorem list?_map {items : List α} (h : ∀ a ∈ items, read (write a) = some a) :
    list? read (.arr (items.map write)) = some items := by
  change (items.map write).mapM read = some items
  induction items with
  | nil => rfl
  | cons a rest ih =>
      have hrest := ih fun b hb => h b (List.mem_cons_of_mem a hb)
      rw [List.map_cons, List.mapM_cons, h a List.mem_cons_self, hrest]
      rfl

/-- Every item of a list that was read comes from a value. -/
theorem exists_of_mem_list? {j : Json} {items : List α} (h : list? read j = some items) {a : α}
    (ha : a ∈ items) : ∃ value, read value = some a := by
  cases j with
  | arr values =>
      change values.mapM read = some items at h
      induction values generalizing items with
      | nil =>
          cases h
          cases ha
      | cons value rest ih =>
          rw [List.mapM_cons] at h
          simp only [bind, Option.bind_eq_some_iff] at h
          obtain ⟨b, hb, others, hothers, hitems⟩ := h
          cases hitems
          rcases List.mem_cons.1 ha with rfl | hmem
          · exact ⟨value, hb⟩
          · exact ih hmem hothers
  | _ => cases h

namespace Record

variable {r : Record} {name : String}

theorem required_of_lookup (write : α → Json) {a : α} (h : r.members.lookup name = some (write a))
    (hread : read (write a) = some a) : r.required name read = some a := by
  unfold required
  rw [h]
  exact hread

theorem optional_of_lookup (write : α → Json) {value : Option α}
    (h : r.members.lookup name = value.map write)
    (hread : ∀ a, value = some a → read (write a) = some a) (hwrite : ∀ a, write a ≠ .null) :
    r.optional name read = some value := by
  unfold optional
  rw [h]
  cases value with
  | none => rfl
  | some a =>
      -- The written value is not null, so it is read.
      have hnull := hwrite a
      simp only [Option.map_some]
      rw [hread a rfl]
      rfl

/-- A text that may be missing is read as it was written. -/
theorem optional_text_of_lookup {value : Option String}
    (h : r.members.lookup name = value.map .str) : r.optional name str? = some value :=
  optional_of_lookup .str h (fun _ _ => rfl) (by simp)

theorem defaulted_of_missing {default : α} (h : r.members.lookup name = none) :
    r.defaulted name default read = some default := by
  unfold defaulted
  rw [h]

theorem defaulted_of_lookup {default : α} (value : Json) (h : r.members.lookup name = some value) :
    r.defaulted name default read = read value := by
  unfold defaulted
  rw [h]

/-- A field that was read as a value is that value in another form. -/
theorem exists_of_optional {a : α} (h : r.optional name read = some (some a)) :
    ∃ value, read value = some a := by
  unfold optional at h
  split at h
  · cases h
  · cases h
  · next value _ _ =>
      obtain ⟨b, hb, hba⟩ := Option.map_eq_some_iff.1 h
      cases hba
      exact ⟨value, hb⟩

end Record

end

end ModelGate.Json

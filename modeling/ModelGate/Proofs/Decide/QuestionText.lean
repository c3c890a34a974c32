import ModelGate.Decide.Service
import ModelGate.Proofs.Json.RecordFields
import ModelGate.Proofs.Json.RoundTrip
import ModelGate.Proofs.Lookup
import ModelGate.Proofs.Text.ReceivedText

/-!
# How questions are written

A question for the decision service is an object, whose members are read by their names.  Members of
other names are passed over.  So an object asks what its members say (`ofBytes?_render`), and every
question is asked by the object that has its parts as members (`ofBytes?_toJson`).
-/

namespace ModelGate

namespace Json

variable {members : List (String × Json)} {written : String × Json → Written} {w : Written} {v : Json}

/-! ## Values that have been read -/

/-- A number is neither a text nor a list of texts. -/
theorem ofNumeral_scalar (x : Numeral) :
    (ofNumeral x).str? = none ∧ (ofNumeral x).texts? = none := by
  unfold ofNumeral
  dsimp only
  split
  · split_ifs <;> exact ⟨rfl, rfl⟩
  · exact ⟨rfl, rfl⟩

theorem text?_of_ofWritten? (h : ofWritten? w = some v) : w.text? = v.str? := by
  cases w with
  | null | bool value =>
      cases h
      rfl
  | number numeral =>
      cases h
      exact (ofNumeral_scalar numeral).1.symm
  | str raw =>
      obtain ⟨text, htext, rfl⟩ := Option.map_eq_some_iff.1 h
      exact htext
  | arr items =>
      obtain ⟨values, -, rfl⟩ := Option.map_eq_some_iff.1 h
      rfl
  | obj members =>
      obtain ⟨values, -, rfl⟩ := Option.map_eq_some_iff.1 h
      rfl

theorem mapM_text?_of_ofWrittenItems? {items : List Written} {values : List Json}
    (h : ofWrittenItems? items = some values) : items.mapM Written.text? = values.mapM str? := by
  induction items generalizing values with
  | nil =>
      cases h
      rfl
  | cons item rest ih =>
      rw [ofWrittenItems?] at h
      obtain ⟨value, hvalue, h⟩ := Option.bind_eq_some_iff.1 h
      obtain ⟨others, hothers, h⟩ := Option.bind_eq_some_iff.1 h
      cases h
      rw [List.mapM_cons, List.mapM_cons, text?_of_ofWritten? hvalue, ih hothers]

theorem texts?_of_ofWritten? (h : ofWritten? w = some v) : w.texts? = v.texts? := by
  cases w with
  | null | bool value =>
      cases h
      rfl
  | number numeral =>
      cases h
      rw [(ofNumeral_scalar numeral).2]
      rfl
  | str raw =>
      obtain ⟨text, -, rfl⟩ := Option.map_eq_some_iff.1 h
      rfl
  | arr items =>
      obtain ⟨values, hvalues, rfl⟩ := Option.map_eq_some_iff.1 h
      exact mapM_text?_of_ofWrittenItems? hvalues
  | obj members =>
      obtain ⟨values, -, rfl⟩ := Option.map_eq_some_iff.1 h
      rfl

/-! ## Fields of an object -/

theorem filter_eq_toList_find? (hnodup : (members.map (·.1)).Nodup) (name : String) :
    members.filter (·.1 == name) = (members.find? (·.1 == name)).toList := by
  induction members with
  | nil => rfl
  | cons m rest ih =>
      obtain ⟨hfresh, hrest⟩ := List.nodup_cons.1 hnodup
      by_cases hname : m.1 = name
      · have hnone : rest.filter (·.1 == name) = [] := by
          refine List.filter_eq_nil_iff.2 fun other hother => ?_
          intro hsame
          exact hfresh (List.mem_map.2 ⟨other, hother, (beq_iff_eq.1 hsame).trans hname.symm⟩)
        simp [hname, hnone]
      · simp [hname, ih hrest]

/-- The names of the members are read as they were written. -/
theorem mapM_decode?_rawOf (members : List (String × Json)) (written : String × Json → Written) :
    (members.map fun m => (rawOf m.1, written m)).mapM
        (fun m => (Written.decode? m.1).bind fun name => some (name, m.2)) =
      some (members.map fun m => (m.1, written m)) := by
  induction members with
  | nil => rfl
  | cons m rest ih =>
      rw [List.map_cons, List.mapM_cons, ih]
      simp [decode?_rawOf]

theorem fields?_obj (hnodup : (members.map (·.1)).Nodup) (names : List String) :
    (Written.obj (members.map fun m => (rawOf m.1, written m))).fields? names =
      some (names.map fun name => (members.find? (·.1 == name)).map written) := by
  unfold Written.fields?
  simp only [bind, pure, mapM_decode?_rawOf, Option.bind_some]
  induction names with
  | nil => rfl
  | cons name rest ih =>
      rw [List.mapM_cons, ih, List.filter_map]
      simp only [Function.comp_def, filter_eq_toList_find? hnodup, List.map_cons]
      cases members.find? (·.1 == name) <;> rfl

/-- What is read of the member of a name is what stands in the object. -/
theorem elim_find?_map {β : Type} {read : Written → Option β} {value : Json → Option β}
    (h : ∀ m ∈ members, read (written m) = value m.2) (missing : Option β) (name : String) :
    ((members.find? (·.1 == name)).map written).elim missing read =
      (members.lookup name).elim missing value := by
  induction members with
  | nil => rfl
  | cons m rest ih =>
      obtain ⟨hm, hrest⟩ := List.forall_mem_cons.1 h
      rw [lookup_cons_ite]
      by_cases hname : m.1 = name
      · simp [hname, hm]
      · rw [List.find?_cons_of_neg (by simpa using hname), ih hrest, if_neg (Ne.symm hname)]

/-- An object that is received as it is rendered is read as its members. -/
theorem exists_ofBytes?_render (h : Restorable (.obj members)) :
    ∃ written : String × Json → Written,
      Written.ofBytes? (utf8Bytes (Json.obj members).render) =
        some (.obj (members.map fun m => (rawOf m.1, written m))) ∧
      ∀ m ∈ members, ofWritten? (written m) = some m.2 := by
  cases h with
  | obj hnodup hmembers =>
      have hread := fun m hm => (hmembers m hm).exists_readsAs
      choose! written hwritten using hread
      refine ⟨written, ?_, fun m hm => (hwritten m hm).value⟩
      unfold Written.ofBytes? render
      rw [Glyph.ofBytes_utf8Bytes, Glyph.ofText, String.toList_ofList]
      exact (readsAs_obj hnodup hwritten).ofGlyphs?_eq

end Json

open Json (Restorable)

variable {members : List (String × Json)}

/-- The question for a tier that an object asks is that of its member `groups`. -/
theorem TierQuestion.ofBytes?_render (h : Restorable (.obj members)) :
    ofBytes? (utf8Bytes (Json.obj members).render) =
      ((members.lookup "groups").elim none Json.texts?).map .mk := by
  obtain ⟨written, hread, hwritten⟩ := Json.exists_ofBytes?_render h
  have htexts : ∀ m ∈ members, (written m).texts? = m.2.texts? :=
    fun m hm => Json.texts?_of_ofWritten? (hwritten m hm)
  have hgroups := Json.elim_find?_map htexts none "groups"
  cases h with
  | obj hnodup hmembers =>
      unfold ofBytes?
      simp only [hread, Json.fields?_obj hnodup, bind, Option.bind_some, List.map_cons, List.map_nil]
      rw [← hgroups]
      cases (members.find? (·.1 == "groups")).map written with
      | none => rfl
      | some groups =>
          dsimp only [Option.bind_some, Option.elim_some]
          cases groups.texts? <;> rfl

/-- The question about a model that an object asks is that of its members `path` and `tier`, which are
empty if they are left out. -/
theorem ModelQuestion.ofBytes?_render (h : Restorable (.obj members)) :
    ofBytes? (utf8Bytes (Json.obj members).render) =
      ((members.lookup "path").elim (some "") Json.str?).bind fun path =>
        ((members.lookup "tier").elim (some "") Json.str?).map fun tier => ⟨path, tier⟩ := by
  obtain ⟨written, hread, hwritten⟩ := Json.exists_ofBytes?_render h
  have htext : ∀ m ∈ members, (written m).text? = m.2.str? :=
    fun m hm => Json.text?_of_ofWritten? (hwritten m hm)
  have hpath := Json.elim_find?_map htext (some "") "path"
  have htier := Json.elim_find?_map htext (some "") "tier"
  cases h with
  | obj hnodup hmembers =>
      unfold ofBytes?
      simp only [hread, Json.fields?_obj hnodup, bind, Option.bind_some, List.map_cons, List.map_nil]
      rw [hpath, htier]
      congr 1
      funext path
      cases (members.lookup "tier").elim (some "") Json.str? <;> rfl

/-! ## Questions as objects -/

def TierQuestion.toJson (question : TierQuestion) : Json :=
  .obj [("groups", .ofStrings question.groups)]

def ModelQuestion.toJson (question : ModelQuestion) : Json :=
  .obj [("path", .str question.path), ("tier", .str question.tier)]

/-- Every question for a tier is asked by its object. -/
theorem TierQuestion.ofBytes?_toJson (question : TierQuestion) :
    ofBytes? (utf8Bytes question.toJson.render) = some question := by
  have hrestorable : Restorable question.toJson := by
    refine .obj (by simp) fun m hm => ?_
    rw [List.mem_singleton.1 hm]
    refine .arr fun item hitem => ?_
    obtain ⟨text, -, rfl⟩ := List.mem_map.1 hitem
    exact .str text
  have htexts : (Json.ofStrings question.groups).texts? = some question.groups :=
    Json.list?_map fun _ _ => rfl
  rw [toJson, ofBytes?_render hrestorable]
  change (Json.ofStrings question.groups).texts?.map _ = _
  rw [htexts]
  rfl

/-- Every question about a model is asked by its object. -/
theorem ModelQuestion.ofBytes?_toJson (question : ModelQuestion) :
    ofBytes? (utf8Bytes question.toJson.render) = some question := by
  have hrestorable : Restorable question.toJson := by
    refine .obj (by simp) fun m hm => ?_
    simp only [List.mem_cons, List.not_mem_nil, or_false] at hm
    rcases hm with rfl | rfl
    · exact .str _
    · exact .str _
  rw [toJson, ofBytes?_render hrestorable]
  rfl

end ModelGate

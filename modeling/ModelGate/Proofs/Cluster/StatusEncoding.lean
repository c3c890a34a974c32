import ModelGate.Proofs.Cluster.StatusRecord
import ModelGate.Proofs.Json.RoundTrip

/-!
# The encoding of a status

A status is restored from its encoding, be it as a value or as a text, and so no two statuses have
the same one.  Conversely, what was read as a status is written field by field as it was given, but for
what reads as if it had not been there: null where a value is optional, and lists without items.  The
one thing that is added is the message that a condition does not have, which becomes the empty text.

How each field is kept stands in one table for conditions and one for statuses
(`Condition.keeping`, `ModelStatus.keeping`).  Members that are in neither are left out.
-/

namespace ModelGate

open Json (Record)

namespace Json

/-! ## Written records -/

/-- Members that a record is written with: they have their places among the fields, and their texts
restore them. -/
structure Writes (members : List (String × Json)) (names : List String) : Prop where
  sublist : (members.map (·.1)).Sublist names
  restorable : ∀ m ∈ members, Restorable m.2

namespace Writes

variable {members members' : List (String × Json)} {names names' : List String}

theorem append (h : Writes members names) (h' : Writes members' names') :
    Writes (members ++ members') (names ++ names') := by
  refine ⟨?_, List.forall_mem_append.2 ⟨h.restorable, h'.restorable⟩⟩
  rw [List.map_append]
  exact h.sublist.append h'.sublist

theorem optional (name : String) {value : Option Json} (h : ∀ v, value = some v → Restorable v) :
    Writes (optional name value) [name] := by
  cases value with
  | none => exact ⟨List.nil_sublist _, List.forall_mem_nil _⟩
  | some v => exact ⟨List.Sublist.refl _, List.forall_mem_singleton.2 (h v rfl)⟩

theorem text (name : String) (value : Option String) :
    Writes (Json.optional name (value.map .str)) [name] := by
  refine optional name fun v hv => ?_
  obtain ⟨text, -, rfl⟩ := Option.map_eq_some_iff.1 hv
  exact .str text

theorem listMember (name : String) {items : List Json} (h : ∀ item ∈ items, Restorable item) :
    Writes (ModelStatus.listMember name items) [name] := by
  cases items with
  | nil => exact ⟨List.nil_sublist _, List.forall_mem_nil _⟩
  | cons item items => exact ⟨List.Sublist.refl _, List.forall_mem_singleton.2 (.arr h)⟩

theorem restorable_obj (h : Writes members names) (hnodup : names.Nodup) :
    Restorable (.obj members) :=
  .obj (hnodup.sublist h.sublist) h.restorable

end Writes

/-- The members of an object. -/
def members : Json → List (String × Json)
  | .obj members => members
  | _ => []

/-! ## What is kept of what was given -/

/-- What is written under a name, depending on what was given under it. -/
def Keeping := Option Json → Option Json → Prop

/-- What must be there is written as it was given. -/
inductive Keeping.Always : Keeping
  | given (v : Json) : Always (some v) (some v)

/-- What is left out is written with the value that stands for it. -/
inductive Keeping.Filled (default : Json) : Keeping
  | absent : Filled default none (some default)
  | given (v : Json) : Filled default (some v) (some v)

/-- What may be null is written unless it is null. -/
inductive Keeping.UnlessNull (same : Json → Json → Prop) : Keeping
  | absent : UnlessNull same none none
  | null : UnlessNull same (some .null) none
  | given {v w : Json} (hnull : v ≠ .null) (h : same v w) : UnlessNull same (some v) (some w)

/-- A list is written item by item, unless it has no items. -/
inductive Keeping.UnlessEmpty (same : Json → Json → Prop) : Keeping
  | absent : UnlessEmpty same none none
  | empty : UnlessEmpty same (some (.arr [])) none
  | given {vs ws : List Json} (hempty : vs ≠ []) (h : List.Forall₂ same vs ws) :
      UnlessEmpty same (some (.arr vs)) (some (.arr ws))

/-- The fields of a record are written as they are kept, each at most once, and nothing else. -/
structure FieldsKept (fields : List (String × Keeping)) (r : Record)
    (members : List (String × Json)) : Prop where
  sublist : (members.map (·.1)).Sublist (fields.map (·.1))
  kept : ∀ field ∈ fields, field.2 (r.members.lookup field.1) (members.lookup field.1)

/-- A record that was given by names or by positions is written by names. -/
def RecordKept (fields : List (String × Keeping)) (given written : Json) : Prop :=
  ∃ r members, Record.of? (fields.map (·.1)) given = some r ∧ written = .obj members ∧
    FieldsKept fields r members

section

variable {α : Type} {r : Record} {name : String} {read : Json → Option α} {write : α → Json}
  {same : Json → Json → Prop}

theorem str?_eq_some {v : Json} {text : String} (h : str? v = some text) : v = .str text := by
  cases v with
  | str text' => exact congrArg Json.str (Option.some.inj h)
  | _ => cases h

theorem Keeping.always_of_required {text : String} (h : r.required name str? = some text) :
    Always (r.members.lookup name) (some (.str text)) := by
  obtain ⟨v, hlookup, hv⟩ := Option.bind_eq_some_iff.1 h
  rw [hlookup, str?_eq_some hv]
  exact .given _

theorem Keeping.filled_of_defaulted {default text : String}
    (h : r.defaulted name default str? = some text) :
    Filled (.str default) (r.members.lookup name) (some (.str text)) := by
  unfold Record.defaulted at h
  split at h
  · next hlookup =>
    rw [hlookup, Option.some.inj h]
    exact .absent
  · next v hlookup =>
    rw [hlookup, str?_eq_some h]
    exact .given _

theorem Keeping.unlessNull_of_optional {value : Option α} {written : Option Json}
    (h : r.optional name read = some value) (hwritten : written = value.map write)
    (hsame : ∀ v a, read v = some a → same v (write a)) :
    UnlessNull same (r.members.lookup name) written := by
  subst hwritten
  unfold Record.optional at h
  split at h
  · next hlookup =>
    rw [hlookup, ← Option.some.inj h]
    exact .absent
  · next hlookup =>
    rw [hlookup, ← Option.some.inj h]
    exact .null
  · next v hnull hlookup =>
    obtain ⟨a, ha, rfl⟩ := Option.map_eq_some_iff.1 h
    rw [hlookup]
    exact .given hnull (hsame v a ha)

theorem forall₂_of_mapM {vs : List Json} {items : List α} (h : vs.mapM read = some items)
    (hsame : ∀ v a, read v = some a → same v (write a)) : List.Forall₂ same vs (items.map write) := by
  induction vs generalizing items with
  | nil =>
      cases h
      exact .nil
  | cons v vs ih =>
      rw [List.mapM_cons] at h
      simp only [bind, Option.bind_eq_some_iff] at h
      obtain ⟨a, ha, rest, hrest, hitems⟩ := h
      cases hitems
      exact .cons (hsame v a ha) (ih hrest)

theorem Keeping.unlessEmpty_of_defaulted {items : List α} {written : Option Json}
    (h : r.defaulted name [] (list? read) = some items)
    (hwritten : written = if items.map write ≠ [] then some (.arr (items.map write)) else none)
    (hsame : ∀ v a, read v = some a → same v (write a)) :
    UnlessEmpty same (r.members.lookup name) written := by
  subst hwritten
  unfold Record.defaulted at h
  split at h
  · next hlookup =>
    rw [hlookup, ← Option.some.inj h]
    exact .absent
  · next v hlookup =>
    rw [hlookup]
    cases v with
    | arr vs =>
        have hkept : List.Forall₂ same vs (items.map write) := forall₂_of_mapM h hsame
        generalize items.map write = ws at hkept
        cases hkept with
        | nil => exact .empty
        | cons hitem hitems => exact .given (List.cons_ne_nil _ _) (.cons hitem hitems)
    | _ => cases h

end

end Json

open Json

/-! ## Conditions -/

/-- How the fields of a condition are kept. -/
def Condition.keeping : List (String × Keeping) :=
  [("type", .Always), ("status", .Always), ("reason", .Always), ("message", .Filled (.str "")),
    ("lastTransitionTime", .UnlessNull Eq), ("observedGeneration", .UnlessNull Eq)]

theorem restorable_of_isGeneration {generation : Option Int} (h : IsGeneration generation) :
    ∀ v, generation.map .int = some v → Restorable v := by
  intro v hv
  obtain ⟨n, rfl, rfl⟩ := Option.map_eq_some_iff.1 hv
  obtain ⟨hlow, hhigh⟩ := (isGeneration_iff (some n)).1 h n (by simp)
  exact .int hlow (by omega)

theorem Condition.writes_toJson {c : Condition} (h : c.IsStorable) :
    Writes c.toJson.members fields := by
  have hrequired : Writes [("type", .str c.type), ("status", .str c.status),
      ("reason", .str c.reason), ("message", .str c.message)]
      ["type", "status", "reason", "message"] :=
    ⟨List.Sublist.refl _, by simp [Restorable.str]⟩
  exact (hrequired.append (.text "lastTransitionTime" c.lastTransitionTime)).append
    (.optional "observedGeneration" (restorable_of_isGeneration h))

theorem Condition.restorable_toJson {c : Condition} (h : c.IsStorable) : Restorable c.toJson :=
  (writes_toJson h).restorable_obj (by decide)

/-- A condition is written as it was given. -/
theorem Condition.recordKept_of_ofJson? {j : Json} {c : Condition} (h : ofJson? j = some c) :
    RecordKept keeping j c.toJson := by
  simp only [ofJson?, bind, Option.bind_eq_some_iff] at h
  obtain ⟨r, hr, type, htype, status, hstatus, reason, hreason, message, hmessage, time, htime,
    generation, hgeneration, hc⟩ := h
  cases hc
  refine ⟨r, _, hr, rfl, (writes_toJson (isGeneration_of_optional hgeneration)).sublist, ?_⟩
  simp only [keeping, List.forall_mem_cons]
  exact ⟨Keeping.always_of_required htype, Keeping.always_of_required hstatus,
    Keeping.always_of_required hreason, Keeping.filled_of_defaulted hmessage,
    Keeping.unlessNull_of_optional htime
      (by simp [List.lookup_cons, List.lookup_append]) fun v a => str?_eq_some,
    Keeping.unlessNull_of_optional hgeneration
      (by simp [List.lookup_cons, List.lookup_append]) fun v a => eq_int_of_signed?,
    List.forall_mem_nil _⟩

/-! ## Phases -/

/-- A phase may be given by its name, or as an object with nothing under that name. -/
inductive SamePhase : Json → Json → Prop
  | name (text : String) : SamePhase (.str text) (.str text)
  | object (text : String) : SamePhase (.obj [(text, .null)]) (.str text)

theorem Phase.samePhase_of_ofJson? {v : Json} {p : Phase} (h : ofJson? v = some p) :
    SamePhase v (.str p.text) := by
  have htext {text : String} (h : ofText? text = some p) : p.text = text := by
    unfold ofText? at h
    split_ifs at h with hpending hready hfailed hunsupported <;> cases h
    · exact hpending.symm
    · exact hready.symm
    · exact hfailed.symm
    · exact hunsupported.symm
  unfold ofJson? at h
  split at h
  · rw [htext h]
    exact .name _
  · rw [htext h]
    exact .object _
  · cases h

/-! ## Statuses -/

namespace ModelStatus

/-- The generations that a status and its conditions are about. -/
def generations (s : ModelStatus) : List Int :=
  s.observedGeneration.toList ++ s.conditions.flatMap (·.observedGeneration.toList)

/-- The generations of a status are 64-bit integers. -/
def HasWords (s : ModelStatus) : Prop :=
  ∀ n ∈ s.generations, -2 ^ 63 ≤ n ∧ n < 2 ^ 63

theorem isStorable_iff_hasWords (s : ModelStatus) : s.IsStorable ↔ s.HasWords := by
  unfold HasWords generations
  rw [List.forall_mem_append, ← isGeneration_iff]
  constructor
  · rintro ⟨hgeneration, hconditions⟩
    refine ⟨hgeneration, fun n hn => ?_⟩
    obtain ⟨c, hc, hn⟩ := List.mem_flatMap.1 hn
    exact (isGeneration_iff _).1 (hconditions c hc) n hn
  · rintro ⟨hgeneration, hconditions⟩
    refine ⟨hgeneration, fun c hc => (isGeneration_iff _).2 fun n hn => ?_⟩
    exact hconditions n (List.mem_flatMap.2 ⟨c, hc, hn⟩)

/-- How the fields of a status are kept. -/
def keeping : List (String × Keeping) :=
  [("phase", .UnlessNull SamePhase), ("endpoint", .UnlessNull Eq), ("routeName", .UnlessNull Eq),
    ("routeNamespace", .UnlessNull Eq), ("routeGatewayName", .UnlessNull Eq),
    ("routeGatewayNamespace", .UnlessNull Eq), ("routeHostnames", .UnlessEmpty Eq),
    ("observedGeneration", .UnlessNull Eq),
    ("conditions", .UnlessEmpty (RecordKept Condition.keeping))]

theorem writes_toJson {s : ModelStatus} (h : s.IsStorable) : Writes s.toJson.members fields := by
  have hphase : ∀ v, (s.phase.map fun p => Json.str p.text) = some v → Restorable v := by
    intro v hv
    obtain ⟨p, -, rfl⟩ := Option.map_eq_some_iff.1 hv
    exact .str p.text
  have hhostnames : ∀ item ∈ s.routeHostnames.map Json.str, Restorable item :=
    List.forall_mem_map.2 fun text _ => .str text
  have hconditions : ∀ item ∈ s.conditions.map Condition.toJson, Restorable item :=
    List.forall_mem_map.2 fun c hc => Condition.restorable_toJson (h.conditions c hc)
  exact ((((((((Writes.optional "phase" hphase).append (.text "endpoint" s.endpoint)).append
    (.text "routeName" s.routeName)).append (.text "routeNamespace" s.routeNamespace)).append
    (.text "routeGatewayName" s.routeGatewayName)).append
    (.text "routeGatewayNamespace" s.routeGatewayNamespace)).append
    (.listMember "routeHostnames" hhostnames)).append
    (.optional "observedGeneration" (restorable_of_isGeneration h.observedGeneration))).append
    (.listMember "conditions" hconditions)

theorem restorable_toJson {s : ModelStatus} (h : s.IsStorable) : Restorable s.toJson :=
  (writes_toJson h).restorable_obj (by decide)

/-- A status is written as it was given. -/
theorem recordKept_of_ofJson? {j : Json} {s : ModelStatus} (h : ofJson? j = some s) :
    RecordKept keeping j s.toJson := by
  have hstorable := isStorable_of_ofJson? h
  simp only [ofJson?, bind, Option.bind_eq_some_iff] at h
  obtain ⟨r, hr, phase, hphase, endpoint, hendpoint, name, hname, ns, hns, gateway, hgateway,
    gatewayNs, hgatewayNs, hostnames, hhostnames, generation, hgeneration, conditions,
    hconditions, hs⟩ := h
  cases hs
  refine ⟨r, _, hr, rfl, (writes_toJson hstorable).sublist, ?_⟩
  simp only [keeping, List.forall_mem_cons]
  have htext {name : String} {value : Option String} {written : Option Json}
      (h : r.optional name str? = some value) (hwritten : written = value.map .str) :
      Keeping.UnlessNull Eq (r.members.lookup name) written :=
    Keeping.unlessNull_of_optional h hwritten fun v a => str?_eq_some
  exact ⟨Keeping.unlessNull_of_optional hphase
      (by simp [List.lookup_append, lookup_listMember]) fun v p => Phase.samePhase_of_ofJson?,
    htext hendpoint (by simp [List.lookup_append, lookup_listMember]),
    htext hname (by simp [List.lookup_append, lookup_listMember]),
    htext hns (by simp [List.lookup_append, lookup_listMember]),
    htext hgateway (by simp [List.lookup_append, lookup_listMember]),
    htext hgatewayNs (by simp [List.lookup_append, lookup_listMember]),
    Keeping.unlessEmpty_of_defaulted hhostnames
      (by simp [List.lookup_append, lookup_listMember]) fun v a => str?_eq_some,
    Keeping.unlessNull_of_optional hgeneration
      (by simp [List.lookup_append, lookup_listMember]) fun v a => eq_int_of_signed?,
    Keeping.unlessEmpty_of_defaulted hconditions
      (by simp [List.lookup_append, lookup_listMember])
      fun v c => Condition.recordKept_of_ofJson?,
    List.forall_mem_nil _⟩

/-- A status is restored from its encoding and from the text of it, so that no two statuses have the
same text.  Every status that can be read is written again field by field as it was given. -/
theorem encoding_is_faithful :
    (∀ s : ModelStatus, s.HasWords →
      ofJson? s.toJson = some s ∧ Json.parse? s.toJson.render = some s.toJson) ∧
    (∀ s s' : ModelStatus, s.HasWords → s'.HasWords →
      s.toJson.render = s'.toJson.render → s = s') ∧
    ∀ j s, ofJson? j = some s → s.HasWords ∧ RecordKept keeping j s.toJson := by
  have hrestored : ∀ s : ModelStatus, s.HasWords →
      ofJson? s.toJson = some s ∧ Json.parse? s.toJson.render = some s.toJson := by
    intro s hwords
    have hstorable := (isStorable_iff_hasWords s).2 hwords
    exact ⟨ofJson?_toJson hstorable, parse?_render (restorable_toJson hstorable)⟩
  refine ⟨hrestored, ?_, ?_⟩
  · intro s s' hwords hwords' heq
    have hjson : s.toJson = s'.toJson :=
      render_injective (restorable_toJson ((isStorable_iff_hasWords s).2 hwords))
        (restorable_toJson ((isStorable_iff_hasWords s').2 hwords')) heq
    have hread := (hrestored s hwords).1
    rw [hjson, (hrestored s' hwords').1] at hread
    exact (Option.some.inj hread).symm
  · intro j s h
    exact ⟨(isStorable_iff_hasWords s).1 (isStorable_of_ofJson? h), recordKept_of_ofJson? h⟩

/-- A status in which much is left out or empty. -/
def sparse : Json :=
  .obj [("note", .str "by hand"), ("phase", .obj [("Ready", .null)]), ("endpoint", .null),
    ("routeHostnames", .arr []), ("observedGeneration", .int (2 ^ 63 - 1)),
    ("conditions", .arr [.arr [.str "Ready", .str "True", .str "Ready"]])]

/-- Of a sparse status the phase, the generation and the condition are written, the condition with an
empty message. -/
theorem sparse_is_kept :
    ∃ s, ofJson? sparse = some s ∧ s.HasWords ∧ RecordKept keeping sparse s.toJson ∧
      s.toJson = .obj [("phase", .str "Ready"), ("observedGeneration", .int (2 ^ 63 - 1)),
        ("conditions", .arr [.obj [("type", .str "Ready"), ("status", .str "True"),
          ("reason", .str "Ready"), ("message", .str "")]])] ∧
      Json.parse? s.toJson.render = some s.toJson := by
  obtain ⟨hrestored, -, hkept⟩ := encoding_is_faithful
  have hread : ofJson? sparse = some ⟨some .ready, none, none, none, none, none, [],
      some (2 ^ 63 - 1), [⟨"Ready", "True", "Ready", "", none, none⟩]⟩ := rfl
  obtain ⟨hwords, hrecord⟩ := hkept _ _ hread
  exact ⟨_, hread, hwords, hrecord, rfl, (hrestored _ hwords).2⟩

end ModelStatus

end ModelGate

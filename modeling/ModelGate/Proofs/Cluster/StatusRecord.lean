import Mathlib
import ModelGate.Cluster.Model
import ModelGate.Proofs.Json.RecordFields

/-!
# Statuses that are stored and read again

Reading the JSON of a status gives the status back (`ModelStatus.ofJson?_toJson`), as long as its
generations are 64-bit integers.  Everything that was read from JSON has such generations, so a
model that was read can be stored with a new status and read again (`Model.ofJson?_setStatus`).
-/

namespace ModelGate

open Json (Record)

/-- A generation is missing or a 64-bit integer. -/
def IsGeneration (generation : Option Int) : Prop :=
  ∀ n, generation = some n → Json.signed? 64 (.int n) = some n

theorem Json.eq_int_of_signed? {bits : Nat} {v : Json} {n : Int} (h : Json.signed? bits v = some n) :
    v = .int n := by
  cases v with
  | int m =>
      unfold Json.signed? at h
      dsimp only at h
      split at h
      · exact congrArg Json.int (Option.some.inj h)
      · cases h
  | _ => cases h

theorem isGeneration_iff (generation : Option Int) :
    IsGeneration generation ↔ ∀ n ∈ generation.toList, -2 ^ 63 ≤ n ∧ n < 2 ^ 63 := by
  have hsigned (n : Int) : Json.signed? 64 (.int n) = some n ↔ -2 ^ 63 ≤ n ∧ n < 2 ^ 63 := by
    have hhalf : ((1 <<< 63 : Nat) : Int) = 2 ^ 63 := rfl
    change (if -((1 <<< 63 : Nat) : Int) ≤ n ∧ n < ((1 <<< 63 : Nat) : Int) then some n else none) =
      some n ↔ _
    rw [hhalf, ite_eq_left_iff]
    simp
  simp only [IsGeneration, hsigned, Option.mem_toList]

theorem isGeneration_of_optional {r : Record} {name : String} {generation : Option Int}
    (h : r.optional name (Json.signed? 64) = some generation) : IsGeneration generation := by
  rintro n rfl
  obtain ⟨value, hvalue⟩ := Record.exists_of_optional h
  exact Json.eq_int_of_signed? hvalue ▸ hvalue

/-! ## Conditions -/

/-- A condition whose generation is a 64-bit integer. -/
def Condition.IsStorable (c : Condition) : Prop :=
  IsGeneration c.observedGeneration

theorem Condition.ofJson?_toJson {c : Condition} (h : c.IsStorable) :
    Condition.ofJson? c.toJson = some c := by
  unfold Condition.toJson Condition.ofJson? Record.of?
  dsimp only [bind, Option.bind]
  generalize hr : Record.mk _ true = r
  have htype : r.required "type" Json.str? = some c.type :=
    Record.required_of_lookup .str (by simp [← hr]) rfl
  have hstatus : r.required "status" Json.str? = some c.status :=
    Record.required_of_lookup .str (by simp [← hr, List.lookup_cons]) rfl
  have hreason : r.required "reason" Json.str? = some c.reason :=
    Record.required_of_lookup .str (by simp [← hr, List.lookup_cons]) rfl
  have hmessage : r.defaulted "message" "" Json.str? = some c.message :=
    Record.defaulted_of_lookup (.str c.message) (by simp [← hr, List.lookup_cons])
  have htime : r.optional "lastTransitionTime" Json.str? = some c.lastTransitionTime :=
    Record.optional_text_of_lookup (by simp [← hr, List.lookup_cons, List.lookup_append])
  have hgeneration :
      r.optional "observedGeneration" (Json.signed? 64) = some c.observedGeneration :=
    Record.optional_of_lookup .int (by simp [← hr, List.lookup_cons, List.lookup_append]) h
      (by simp)
  rw [htype, hstatus, hreason, hmessage, htime, hgeneration]
  rfl

theorem Condition.isStorable_of_ofJson? {j : Json} {c : Condition}
    (h : Condition.ofJson? j = some c) : c.IsStorable := by
  simp only [Condition.ofJson?, bind, Option.bind_eq_some_iff] at h
  obtain ⟨r, hr, type, htype, status, hstatus, reason, hreason, message, hmessage, time, htime,
    generation, hgeneration, hc⟩ := h
  cases hc
  exact isGeneration_of_optional hgeneration

/-! ## Phases -/

theorem Phase.ofJson?_text (p : Phase) : Phase.ofJson? (.str p.text) = some p := by
  cases p <;> rfl

/-! ## Statuses -/

/-- A status whose generations are 64-bit integers. -/
structure ModelStatus.IsStorable (s : ModelStatus) : Prop where
  observedGeneration : IsGeneration s.observedGeneration
  conditions : ∀ c ∈ s.conditions, c.IsStorable

namespace ModelStatus

/-- A list is left out where it is empty, and reads as empty where it is left out. -/
theorem lookup_listMember (name key : String) (items : List Json) :
    (listMember name items).lookup key =
      if key = name ∧ items ≠ [] then some (.arr items) else none := by
  unfold listMember
  cases items with
  | nil => simp
  | cons item rest => simp [lookup_cons_ite]

/-- A list that is left out where it is empty is read as it was. -/
theorem defaulted_listMember {α : Type} {read : Json → Option α} {r : Record} {name : String}
    {items : List α} (write : α → Json)
    (h : r.members.lookup name =
      if items.map write ≠ [] then some (.arr (items.map write)) else none)
    (hread : ∀ a ∈ items, read (write a) = some a) :
    r.defaulted name [] (Json.list? read) = some items := by
  cases items with
  | nil => exact Record.defaulted_of_missing h
  | cons a rest =>
      rw [Record.defaulted_of_lookup (.arr ((a :: rest).map write)) (by simpa using h)]
      exact Json.list?_map hread

theorem ofJson?_toJson {s : ModelStatus} (h : s.IsStorable) : ofJson? s.toJson = some s := by
  unfold toJson ofJson? Record.of?
  dsimp only [bind, Option.bind]
  generalize hr : Record.mk _ true = r
  have hphase : r.optional "phase" Phase.ofJson? = some s.phase :=
    Record.optional_of_lookup (fun p => .str p.text)
      (by simp [← hr, List.lookup_append, lookup_listMember])
      (fun p _ => Phase.ofJson?_text p) (by simp)
  have hendpoint : r.optional "endpoint" Json.str? = some s.endpoint :=
    Record.optional_text_of_lookup (by simp [← hr, List.lookup_append, lookup_listMember])
  have hname : r.optional "routeName" Json.str? = some s.routeName :=
    Record.optional_text_of_lookup (by simp [← hr, List.lookup_append, lookup_listMember])
  have hns : r.optional "routeNamespace" Json.str? = some s.routeNamespace :=
    Record.optional_text_of_lookup (by simp [← hr, List.lookup_append, lookup_listMember])
  have hgateway : r.optional "routeGatewayName" Json.str? = some s.routeGatewayName :=
    Record.optional_text_of_lookup (by simp [← hr, List.lookup_append, lookup_listMember])
  have hgatewayNs : r.optional "routeGatewayNamespace" Json.str? = some s.routeGatewayNamespace :=
    Record.optional_text_of_lookup (by simp [← hr, List.lookup_append, lookup_listMember])
  have hhostnames : r.defaulted "routeHostnames" [] Json.texts? = some s.routeHostnames :=
    defaulted_listMember .str (by simp [← hr, List.lookup_append, lookup_listMember])
      fun _ _ => rfl
  have hgeneration :
      r.optional "observedGeneration" (Json.signed? 64) = some s.observedGeneration :=
    Record.optional_of_lookup .int (by simp [← hr, List.lookup_append, lookup_listMember])
      h.observedGeneration (by simp)
  have hconditions :
      r.defaulted "conditions" [] (Json.list? Condition.ofJson?) = some s.conditions :=
    defaulted_listMember Condition.toJson (by simp [← hr, List.lookup_append, lookup_listMember])
      fun c hc => Condition.ofJson?_toJson (h.conditions c hc)
  rw [hphase, hendpoint, hname, hns, hgateway, hgatewayNs, hhostnames, hgeneration, hconditions]
  rfl

theorem isStorable_of_ofJson? {j : Json} {s : ModelStatus} (h : ofJson? j = some s) :
    s.IsStorable := by
  simp only [ofJson?, bind, Option.bind_eq_some_iff] at h
  obtain ⟨r, hr, phase, hphase, endpoint, hendpoint, name, hname, ns, hns, gateway, hgateway,
    gatewayNs, hgatewayNs, hostnames, hhostnames, generation, hgeneration, conditions,
    hconditions, hs⟩ := h
  cases hs
  refine ⟨isGeneration_of_optional hgeneration, ?_⟩
  intro c hc
  unfold Record.defaulted at hconditions
  split at hconditions
  · cases hconditions
    cases hc
  · obtain ⟨value, hvalue⟩ := Json.exists_of_mem_list? hconditions hc
    exact Condition.isStorable_of_ofJson? hvalue

end ModelStatus

/-! ## Models -/

theorem Metadata.isGeneration_of_ofJson? {j : Json} {m : Metadata}
    (h : Metadata.ofJson? j = some m) : IsGeneration m.generation := by
  simp only [Metadata.ofJson?, bind, Option.bind_eq_some_iff] at h
  obtain ⟨r, hr, _, _, _, _, _, _, _, _, _, _, _, _, name, hname, generateName, hgenerateName, ns,
    hns, uid, huid, generation, hgeneration, rest⟩ := h
  obtain ⟨annotations, _, finalizers, _, owners, _, deletion, _, hm⟩ := rest
  cases hm
  exact isGeneration_of_optional hgeneration

namespace Model

/-- The parts of a model that was read. -/
theorem exists_of_ofJson? {members : List (String × Json)} {model : Model}
    (h : ofJson? (.obj members) = some model) :
    Record.required ⟨members, true⟩ "metadata" Metadata.ofJson? = some model.metadata ∧
      Record.required ⟨members, true⟩ "spec" specOfJson? = some model.backend ∧
      Record.optional ⟨members, true⟩ "status" ModelStatus.ofJson? = some model.status := by
  simp only [ofJson?, bind, Option.bind_eq_some_iff] at h
  obtain ⟨r, hr, metadata, hmetadata, backend, hbackend, status, hstatus, hmodel⟩ := h
  cases hr
  cases hmodel
  exact ⟨hmetadata, hbackend, by simpa [Record.nullable] using hstatus⟩

variable {members : List (String × Json)} {model : Model}

theorem isGeneration_of_ofJson? (h : ofJson? (.obj members) = some model) :
    IsGeneration model.metadata.generation := by
  obtain ⟨hmetadata, -, -⟩ := exists_of_ofJson? h
  simp only [Record.required, bind, Option.bind_eq_some_iff] at hmetadata
  obtain ⟨value, -, hvalue⟩ := hmetadata
  exact Metadata.isGeneration_of_ofJson? hvalue

theorem isStorable_of_ofJson? (h : ofJson? (.obj members) = some model) {s : ModelStatus}
    (hs : model.status = some s) : s.IsStorable := by
  obtain ⟨-, -, hstatus⟩ := exists_of_ofJson? h
  rw [hs] at hstatus
  obtain ⟨value, hvalue⟩ := Record.exists_of_optional hstatus
  exact ModelStatus.isStorable_of_ofJson? hvalue

/-- A model that is stored with a new status is read with that status, and otherwise as before. -/
theorem ofJson?_setStatus (h : ofJson? (.obj members) = some model) {s : ModelStatus}
    (hs : s.IsStorable) :
    ofJson? (.obj (Json.setMember "status" s.toJson members)) =
      some { model with status := some s } := by
  obtain ⟨hmetadata, hbackend, -⟩ := exists_of_ofJson? h
  unfold ofJson? Record.of?
  dsimp only [bind, Option.bind]
  generalize hr : Record.mk (Json.setMember "status" s.toJson members) true = r
  have hmetadata' : r.required "metadata" Metadata.ofJson? = some model.metadata := by
    rw [← hmetadata]
    simp [Record.required, ← hr, Json.lookup_setMember]
  have hbackend' : r.required "spec" specOfJson? = some model.backend := by
    rw [← hbackend]
    simp [Record.required, ← hr, Json.lookup_setMember]
  have hstatus : r.nullable "status" ModelStatus.ofJson? = some (some s) := by
    unfold Record.nullable
    rw [if_pos (by simp [← hr])]
    exact Record.optional_of_lookup ModelStatus.toJson (by simp [← hr, Json.lookup_setMember])
      (fun _ ha => by rw [← Option.some.inj ha, ModelStatus.ofJson?_toJson hs])
      (by simp [ModelStatus.toJson])
  rw [hmetadata', hbackend', hstatus]
  rfl

end Model

end ModelGate

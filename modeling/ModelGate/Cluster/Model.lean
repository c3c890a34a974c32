import ModelGate.Cluster.Metadata

/-!
# Models

A model object names the backend that serves it, and its status says how far that got: the phase,
the endpoint, the route in front of it and the conditions.
-/

namespace ModelGate

open Json (Record)

inductive Phase where
  | pending
  | ready
  | failed
  | unsupported
  deriving DecidableEq, Repr

namespace Phase

def text : Phase → String
  | .pending => "Pending"
  | .ready => "Ready"
  | .failed => "Failed"
  | .unsupported => "Unsupported"

def ofText? (s : String) : Option Phase :=
  if s = "Pending" then some .pending
  else if s = "Ready" then some .ready
  else if s = "Failed" then some .failed
  else if s = "Unsupported" then some .unsupported
  else none

/-- Reads a phase: its text, or an object with that one name and no value. -/
def ofJson? : Json → Option Phase
  | .str s => ofText? s
  | .obj [(s, .null)] => ofText? s
  | _ => none

end Phase

structure Condition where
  type : String
  status : String
  reason : String
  message : String
  lastTransitionTime : Option String
  observedGeneration : Option Int
  deriving DecidableEq, Repr

namespace Condition

/-- The fields of a condition. -/
def fields : List String :=
  ["type", "status", "reason", "message", "lastTransitionTime", "observedGeneration"]

def ofJson? (j : Json) : Option Condition := do
  let r ← Record.of? fields j
  return {
    type := ← r.required "type" Json.str?
    status := ← r.required "status" Json.str?
    reason := ← r.required "reason" Json.str?
    message := ← r.defaulted "message" "" Json.str?
    lastTransitionTime := ← r.optional "lastTransitionTime" Json.str?
    observedGeneration := ← r.optional "observedGeneration" (Json.signed? 64) }

def toJson (c : Condition) : Json :=
  .obj ([("type", .str c.type), ("status", .str c.status), ("reason", .str c.reason),
      ("message", .str c.message)] ++
    Json.optional "lastTransitionTime" (c.lastTransitionTime.map .str) ++
    Json.optional "observedGeneration" (c.observedGeneration.map .int))

end Condition

structure ModelStatus where
  phase : Option Phase
  endpoint : Option String
  routeName : Option String
  routeNamespace : Option String
  routeGatewayName : Option String
  routeGatewayNamespace : Option String
  routeHostnames : List String
  observedGeneration : Option Int
  conditions : List Condition
  deriving DecidableEq, Repr

namespace ModelStatus

def blank : ModelStatus :=
  ⟨none, none, none, none, none, none, [], none, []⟩

/-- The fields of a status. -/
def fields : List String :=
  ["phase", "endpoint", "routeName", "routeNamespace", "routeGatewayName",
    "routeGatewayNamespace", "routeHostnames", "observedGeneration", "conditions"]

def ofJson? (j : Json) : Option ModelStatus := do
  let r ← Record.of? fields j
  return {
    phase := ← r.optional "phase" Phase.ofJson?
    endpoint := ← r.optional "endpoint" Json.str?
    routeName := ← r.optional "routeName" Json.str?
    routeNamespace := ← r.optional "routeNamespace" Json.str?
    routeGatewayName := ← r.optional "routeGatewayName" Json.str?
    routeGatewayNamespace := ← r.optional "routeGatewayNamespace" Json.str?
    routeHostnames := ← r.defaulted "routeHostnames" [] Json.texts?
    observedGeneration := ← r.optional "observedGeneration" (Json.signed? 64)
    conditions := ← r.defaulted "conditions" [] (Json.list? Condition.ofJson?) }

/-- A list as a member of an object, left out when it is empty. -/
def listMember (name : String) (items : List Json) : List (String × Json) :=
  if items.isEmpty then [] else [(name, .arr items)]

/-- The JSON of a status; what is missing or empty is left out. -/
def toJson (s : ModelStatus) : Json :=
  .obj (Json.optional "phase" (s.phase.map fun p => .str p.text) ++
    Json.optional "endpoint" (s.endpoint.map .str) ++
    Json.optional "routeName" (s.routeName.map .str) ++
    Json.optional "routeNamespace" (s.routeNamespace.map .str) ++
    Json.optional "routeGatewayName" (s.routeGatewayName.map .str) ++
    Json.optional "routeGatewayNamespace" (s.routeGatewayNamespace.map .str) ++
    listMember "routeHostnames" (s.routeHostnames.map .str) ++
    Json.optional "observedGeneration" (s.observedGeneration.map .int) ++
    listMember "conditions" (s.conditions.map Condition.toJson))

end ModelStatus

/-- The backend that a model names. -/
structure ModelReference where
  kind : String
  name : String
  ns : Option String
  deriving DecidableEq, Repr

namespace ModelReference

def ofJson? (j : Json) : Option ModelReference := do
  let r ← Record.of? ["kind", "name", "namespace"] j
  return {
    kind := ← r.required "kind" Json.str?
    name := ← r.required "name" Json.str?
    ns := ← r.optional "namespace" Json.str? }

def toJson (m : ModelReference) : Json :=
  .obj ([("kind", .str m.kind), ("name", .str m.name)] ++
    Json.optional "namespace" (m.ns.map .str))

end ModelReference

structure Model where
  metadata : Metadata
  backend : ModelReference
  status : Option ModelStatus
  deriving DecidableEq, Repr

namespace Model

/-- The version of the API that models belong to. -/
def apiVersion : String :=
  "maas.opendatahub.io/v1alpha1"

def kind : String :=
  "MaaSModel"

/-- The annotation that lists the tiers a model is open to. -/
def tiersKey : String :=
  "alpha.maas.opendatahub.io/tiers"

/-- The finalizer that the controller puts on models. -/
def finalizer : String :=
  "maas.opendatahub.io/model-cleanup"

/-- The name under which the controller writes the status of models. -/
def fieldManager : String :=
  "maas.opendatahub.io"

def specOfJson? (j : Json) : Option ModelReference := do
  (← Record.of? ["modelRef"] j).required "modelRef" ModelReference.ofJson?

def specJson (m : Model) : Json :=
  .obj [("modelRef", m.backend.toJson)]

def ofJson? (j : Json) : Option Model := do
  let r ← Record.of? ["metadata", "spec", "status"] j
  return {
    metadata := ← r.required "metadata" Metadata.ofJson?
    backend := ← r.required "spec" specOfJson?
    status := ← r.nullable "status" ModelStatus.ofJson? }

/-- The kind of the backend. -/
def backendKind (m : Model) : String :=
  m.backend.kind

/-- The namespace of the backend: the one it names unless that is empty, else the model's own. -/
def backendNamespace (m : Model) : Option String :=
  (m.backend.ns.filter (· != "")).or m.metadata.ns

/-- The text of the annotation that lists tiers. -/
def tiers (m : Model) : Option String :=
  m.metadata.annotations.lookup tiersKey

/-- The name under which a model is shown. -/
def shownName (m : Model) : String :=
  m.metadata.shownName

/-- The id under which retries of a model are counted. -/
def id (m : Model) : ObjectId :=
  m.metadata.id

theorem id_of_ns {m : Model} {ns : String} (h : m.metadata.ns = some ns) :
    m.id = ⟨ns, m.shownName⟩ := by
  unfold id Metadata.id
  rw [h]
  rfl

end Model

end ModelGate

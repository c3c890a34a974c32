import ModelGate.Cluster.Model

/-!
# Inference services

A service that runs a language model. Only its readiness and its URL matter here.
-/

namespace ModelGate

open Json (Record)

/-- One condition of an inference service. -/
structure ServiceCondition where
  type : String
  status : String
  reason : Option String
  message : Option String
  deriving DecidableEq, Repr

namespace ServiceCondition

def ofJson? (j : Json) : Option ServiceCondition := do
  let r ← Record.of? ["type", "status", "reason", "message"] j
  return {
    type := ← r.required "type" Json.str?
    status := ← r.required "status" Json.str?
    reason := ← r.optional "reason" Json.str?
    message := ← r.optional "message" Json.str? }

def toJson (c : ServiceCondition) : Json :=
  .obj ([("type", .str c.type), ("status", .str c.status)] ++
    Json.optional "reason" (c.reason.map .str) ++ Json.optional "message" (c.message.map .str))

end ServiceCondition

/-- The status of an inference service. -/
structure ServiceStatus where
  url : Option String
  conditions : List ServiceCondition
  deriving DecidableEq, Repr

namespace ServiceStatus

def ofJson? (j : Json) : Option ServiceStatus := do
  let r ← Record.of? ["url", "conditions"] j
  return {
    url := ← r.optional "url" Json.str?
    conditions := ← r.defaulted "conditions" [] (Json.list? ServiceCondition.ofJson?) }

def toJson (s : ServiceStatus) : Json :=
  .obj (Json.optional "url" (s.url.map .str) ++
    ModelStatus.listMember "conditions" (s.conditions.map ServiceCondition.toJson))

end ServiceStatus

/-- An inference service; what it asks for is carried along unread. -/
structure InferenceService where
  metadata : Metadata
  spec : List (String × Json)
  status : Option ServiceStatus

namespace InferenceService

def kind : String :=
  "LLMInferenceService"

def ofJson? (j : Json) : Option InferenceService := do
  let r ← Record.of? ["metadata", "spec", "status"] j
  return {
    metadata := ← r.required "metadata" Metadata.ofJson?
    spec := ← r.required "spec" (Json.map? Json.any?)
    status := ← r.nullable "status" ServiceStatus.ofJson? }

def isReady (s : InferenceService) : Bool :=
  s.status.any fun status =>
    status.conditions.any fun c => c.type == "Ready" && c.status == "True"

/-- The URL that the service publishes, unless it is empty. -/
def url (s : InferenceService) : Option String :=
  (s.status.bind (·.url)).filter (· != "")

end InferenceService

end ModelGate

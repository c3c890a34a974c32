import ModelGate.Decide.Body
import ModelGate.Decide.Metrics
import ModelGate.Index.Tiers
import ModelGate.Json.Written
import ModelGate.Tier.Cache

/-!
# The decision service

Answers two questions over HTTP: which tier the members of some groups have, and whether a tier may
use a model. Tiers are answered from a cache, models always from the present index.
-/

namespace ModelGate

/-- A request to the decision service. -/
structure DecisionRequest where
  method : String
  path : String
  body : Body

/-- An answer of the decision service; its body is JSON. -/
structure DecisionResponse where
  status : Nat
  body : Json
  /-- The method that would have been allowed. -/
  allow : Option String

/-- A request that is refused before it comes to a decision. -/
structure Rejection where
  status : Nat
  outcome : DecisionOutcome
  message : String
  deriving DecidableEq, Repr

/-- The question for the tier of some groups. -/
structure TierQuestion where
  groups : List String
  deriving DecidableEq, Repr

/-- The question whether a tier may use the model that a path names. -/
structure ModelQuestion where
  path : String
  tier : String
  deriving DecidableEq, Repr

namespace TierQuestion

/-- Reads the question from a body. -/
def ofBytes? (bytes : List UInt8) : Option TierQuestion := do
  match ← (← Json.Written.ofBytes? bytes).fields? ["groups"] with
  | [groups] => return ⟨← (← groups).texts?⟩
  | _ => none

end TierQuestion

namespace ModelQuestion

/-- Reads the question from a body; what is left out is empty. -/
def ofBytes? (bytes : List UInt8) : Option ModelQuestion := do
  match ← (← Json.Written.ofBytes? bytes).fields? ["path", "tier"] with
  | [path, tier] =>
    return ⟨← path.elim (some "") Json.Written.text?, ← tier.elim (some "") Json.Written.text?⟩
  | _ => none

end ModelQuestion

namespace Rejection

/-- The refusal of a request that makes no sense. -/
def badRequest (message : String) : Rejection :=
  ⟨400, .badRequest, message⟩

/-- The refusal of a body that is not of the expected form, which is shown as `<json>`. -/
def unreadable : Rejection :=
  badRequest "invalid request body: <json>"

/-- The refusal of a body that could not be read. -/
def ofBody : BodyError → Rejection
  | .tooLarge => ⟨413, .tooLarge, "request body exceeds " ++ toString Body.maxBytes ++ " bytes"⟩
  | .failed text => badRequest ("failed to read request body: " ++ text)
  | .timedOut => ⟨408, .timeout, "timed out reading request body"⟩

/-- The refusal of a question about a model. -/
def ofAuthorize (error : Access.AuthorizeError) : Rejection :=
  match error with
  | .path _ => badRequest error.message
  | .notFound _ => ⟨404, .notFound, error.message⟩
  | .invalidAllowlist .. => ⟨500, .error, error.message⟩

end Rejection

namespace DecisionResponse

/-- The answer to a question. -/
def ok (body : Json) : DecisionResponse :=
  ⟨200, body, none⟩

/-- The answer that says what is wrong. -/
def error (status : Nat) (message : String) : DecisionResponse :=
  ⟨status, .obj [("error", .str message)], none⟩

/-- The answer for the tier of an identity. -/
def ofTier : Option Tier → DecisionResponse
  | some tier => ok (.obj [("displayName", .str tier.displayName), ("tier", .str tier.name)])
  | none => ok (.obj [])

/-- The answer for a decision on a model. -/
def ofDecision (decision : Access.Decision) : DecisionResponse :=
  ok (.obj ([("allowed", .bool decision.allowed)] ++
    Json.optional "reason" (decision.reason.map .str)))

end DecisionResponse

/-- The state of the decision service. -/
structure DecisionService where
  models : ModelIndex
  tiers : TierIndex
  cache : TierCache
  readTimeout : Duration
  counts : List (Tally (Endpoint × DecisionOutcome))
  now : Duration

namespace DecisionService

def new (source : ObjectId) (cache : TierCache) (readTimeout : Duration) : DecisionService :=
  ⟨.empty, .new source, cache, readTimeout, [], 0⟩

/-- Takes note of a model as it is now. -/
def applyModel (s : DecisionService) (model : Model) : Except IndexError DecisionService := do
  return { s with models := ← s.models.apply model }

/-- Takes note that a model is gone. -/
def eraseModel (s : DecisionService) (id : ObjectId) : DecisionService :=
  { s with models := s.models.erase id.ns id.name }

/-- Takes note of a configuration map as it is now. -/
def applyMap (s : DecisionService) (map : ConfigMap) : Except IndexError DecisionService := do
  return { s with tiers := ← s.tiers.apply map }

/-- Takes note that a configuration map is gone. -/
def eraseMap (s : DecisionService) (id : ObjectId) : DecisionService :=
  { s with tiers := s.tiers.erase id }

/-- Lets time go by. -/
def wait (s : DecisionService) (span : Duration) : DecisionService :=
  { s with now := s.now + span }

/-- Counts a request. -/
def observe (s : DecisionService) (endpoint : Endpoint) (outcome : DecisionOutcome) :
    DecisionService :=
  { s with counts := Tally.bump (endpoint, outcome) s.counts }

/-- Counts and answers a request that is refused. -/
def reject (s : DecisionService) (endpoint : Endpoint) (r : Rejection) :
    DecisionResponse × DecisionService :=
  (.error r.status r.message, s.observe endpoint r.outcome)

/-- Answers the question for the tier of some groups. -/
def lookupTier (s : DecisionService) (bytes : List UInt8) :
    Except ExpiryError DecisionResponse × DecisionService :=
  match TierQuestion.ofBytes? bytes with
  | none =>
    let (response, s) := s.reject .tiersLookup .unreadable
    (.ok response, s)
  | some question =>
    match s.cache.resolve s.tiers.mapping s.now (.ofGroups question.groups) with
    | (.error error, cache) => (.error error, { s with cache })
    | (.ok tier, cache) =>
      let s := { s with cache }
      (.ok (.ofTier tier),
        s.observe .tiersLookup (if tier.isSome then .tier else .noTier))

/-- Decides a question about a model. -/
def decide (s : DecisionService) (question : ModelQuestion) : Except Rejection Access.Decision :=
  if question.path = "" then .error (.badRequest "path is required")
  else if question.tier = "" then .error (.badRequest "tier is required")
  else
    match Access.authorize s.models.modelsNamed question.path question.tier with
    | .ok decision => .ok decision
    | .error error => .error (.ofAuthorize error)

/-- Answers the question whether a tier may use a model. -/
def authorizeModel (s : DecisionService) (bytes : List UInt8) :
    DecisionResponse × DecisionService :=
  match ModelQuestion.ofBytes? bytes with
  | none => s.reject .modelsAuthorize .unreadable
  | some question =>
    match s.decide question with
    | .error rejection => s.reject .modelsAuthorize rejection
    | .ok decision =>
      (.ofDecision decision,
        s.observe .modelsAuthorize (if decision.allowed then .allowed else .denied))

/-- Answers a request to an endpoint whose body has been read. -/
def answer (s : DecisionService) (endpoint : Endpoint) (bytes : List UInt8) :
    Except ExpiryError DecisionResponse × DecisionService :=
  match endpoint with
  | .tiersLookup => s.lookupTier bytes
  | .modelsAuthorize =>
    let (response, s) := s.authorizeModel bytes
    (.ok response, s)

/-- Answers a request. -/
def handle (s : DecisionService) (request : DecisionRequest) :
    Except ExpiryError DecisionResponse × DecisionService :=
  match Endpoint.atPath? request.path with
  | none => (.ok (.error 404 ("no decision endpoint at " ++ request.path)), s)
  | some endpoint =>
    if request.method ≠ "POST" then
      (.ok { DecisionResponse.error 405 "method not allowed" with allow := some "POST" },
        s.observe endpoint .methodNotAllowed)
    else
      let read := request.body.read s.readTimeout
      let s := s.wait read.took
      match read.outcome with
      | .error error =>
        let (response, s) := s.reject endpoint (.ofBody error)
        (.ok response, s)
      | .ok bytes => s.answer endpoint bytes

/-- The lines that report the counts and the sizes of the indexes, in ascending order. -/
def report (s : DecisionService) : List String :=
  let counts := s.counts.map fun t =>
    Tally.line "decision_requests_total" ("endpoint", t.key.1.label) ("outcome", t.key.2.label)
      t.count
  let sizes := ["index_model_index_size " ++ toString s.models.size,
    "index_tier_mapping_size " ++ toString s.tiers.mapping.size]
  (counts ++ sizes).mergeSort fun a b => Decidable.decide (a ≤ b)

end DecisionService

end ModelGate

import ModelGate.Reconcile.Backend

/-!
# Evaluation of models

The status that a model should carry, found by asking its backend. Conditions of other types stay
as they are, and the ready condition keeps its transition time as long as its status and its
reason do.
-/

namespace ModelGate

/-- How the evaluation of a model ended. -/
inductive Outcome where
  | ready
  | pending
  | unsupported
  | failed (error : BackendError)
  deriving DecidableEq, Repr

/-- The status that a model should carry, and how it was found. -/
structure Evaluation where
  status : ModelStatus
  outcome : Outcome
  deriving DecidableEq, Repr

namespace Evaluation

/-- The type of the condition that evaluations maintain. -/
def readyType : String :=
  "Ready"

/-- The status to start from: the conditions that a model carries, and the route if it is known. -/
def base (model : Model) (route : Option RouteReference) : ModelStatus :=
  let status := { ModelStatus.blank with
    observedGeneration := model.metadata.generation
    conditions := model.status.elim [] (·.conditions) }
  route.elim status fun r => r.writeTo status

/-- Replaces the first ready condition where it stands, or adds one at the end. -/
def replaceReady (condition : Condition) : List Condition → List Condition
  | [] => [condition]
  | c :: rest =>
    if c.type = readyType then condition :: rest else c :: replaceReady condition rest

/-- The time of the last transition: that of the former condition if its status and its reason
are the same, else the present. -/
def transitionTime (former : Option Condition) (value reason now : String) : Option String :=
  match former with
  | some c =>
    if c.status = value ∧ c.reason = reason ∧ c.lastTransitionTime.isSome then
      c.lastTransitionTime
    else some now
  | none => some now

/-- Sets the ready condition of a status. -/
def setReady (status : ModelStatus) (generation : Option Int) (ready : Bool)
    (reason message now : String) : ModelStatus :=
  let value := if ready then "True" else "False"
  let former := status.conditions.find? (·.type == readyType)
  { status with
    conditions := replaceReady
      ⟨readyType, value, reason, message, transitionTime former value reason now, generation⟩
      status.conditions }

/-- The evaluation of a model that its backend does not support. -/
def unsupported (model : Model) (message now : String) : Evaluation :=
  let status := { base model none with phase := some .unsupported }
  ⟨setReady status model.metadata.generation false "Unsupported" message now, .unsupported⟩

/-- The evaluation of a model whose backend failed; the reason names the call that did. -/
def failed (model : Model) (route : Option RouteReference) (reason : String)
    (error : BackendError) (now : String) : Evaluation :=
  if error.isNotImplemented then unsupported model error.message now
  else
    let status := { base model route with phase := some .failed }
    ⟨setReady status model.metadata.generation false reason error.message now, .failed error⟩

/-- The evaluation of a model whose backend answered. -/
def observed (model : Model) (route : RouteReference) (found : ModelEndpoint) (now : String) :
    Evaluation :=
  let status := base model (some route)
  let generation := model.metadata.generation
  let pending (message : String) : Evaluation :=
    ⟨setReady { status with phase := some .pending } generation false "BackendNotReady" message now,
      .pending⟩
  match found.endpoint, found.ready with
  | some url, true =>
    ⟨setReady { status with phase := some .ready, endpoint := some url } generation true "Ready"
      "model is ready" now, .ready⟩
  | none, true => pending "backend is ready but no endpoint is known"
  | _, false => pending "backend is not ready"

/-- Evaluates a model with its backend. -/
def withBackend (backend : Backend) (model : Model) (now : String) : Program Evaluation := do
  Program.leave (.called .route)
  match ← backend.reconcileRoute model with
  | .error error => return failed model none "ReconcileFailed" error now
  | .ok route =>
    Program.leave (.called .status)
    match ← backend.status model route with
    | .error error => return failed model (some route) "StatusFailed" error now
    | .ok found => return observed model route found now

/-- Evaluates a model. -/
def evaluate (registry : Registry) (model : Model) (now : String) : Program Evaluation :=
  match registry.get? model.backendKind with
  | none =>
    return unsupported model
      ("backend kind " ++ Text.quoted model.backendKind ++ " is not supported") now
  | some backend => withBackend backend model now

/-- Whether a status has to be stored: only if the model carries a different one. -/
def needsPatch (model : Model) (status : ModelStatus) : Bool :=
  model.status != some status

end Evaluation

end ModelGate

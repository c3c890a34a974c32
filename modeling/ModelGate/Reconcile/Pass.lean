import ModelGate.Reconcile.Evaluation
import ModelGate.Reconcile.ExternalBackend
import ModelGate.Reconcile.InferenceBackend

/-!
# One pass over a model

A model first gets the finalizer of the controller. From then on every pass evaluates it and stores
its status if that has changed. Once it is being deleted, a pass removes the routes that belong to
the controller, and only then the finalizer.
-/

namespace ModelGate

/-- When to look at a model again. -/
inductive Action where
  /-- As soon as it changes. -/
  | awaitChange
  /-- After some time, or as soon as it changes. -/
  | requeue (delay : Duration)
  deriving DecidableEq, Repr

inductive PassError where
  | backend (kind : String) (error : BackendError)
  | status (error : BackendError)
  | cleanup (kind : String) (error : BackendError)
  | addFinalizer (error : RequestError)
  | removeFinalizer (error : RequestError)
  | unnamed
  deriving DecidableEq, Repr

def PassError.message : PassError → String
  | .backend kind error => "failed to apply object: " ++ kind ++ " backend failed: " ++ error.message
  | .status error => "failed to apply object: failed to update status: " ++ error.message
  | .cleanup kind error =>
    "failed to clean up object: " ++ kind ++ " cleanup failed: " ++ error.message
  | .addFinalizer error => "failed to add finalizer: " ++ error.message
  | .removeFinalizer error => "failed to remove finalizer: " ++ error.message
  | .unnamed => "object has no name"

/-- What the deletion of a model asked of its backend. -/
inductive Removal where
  /-- The kind has no backend, so nothing was ever created for it. -/
  | unregistered
  /-- Routes of the kind do not belong to the controller. -/
  | notOwned
  | notImplemented
  | deleted
  deriving DecidableEq, Repr

namespace Pass

/-- How long a ready model is left alone. -/
def readyResync : Duration :=
  Duration.ofSeconds 300

/-- How long a pending model is left alone. -/
def pendingRecheck : Duration :=
  Duration.ofSeconds 30

/-- The backends that the controller knows. -/
def registry (gateway : GatewayRef) (limit : Duration) : Registry :=
  (Registry.empty.register InferenceBackend.kind (InferenceBackend.backend gateway limit)).register
    ExternalBackend.kind (ExternalBackend.backend limit)

/-- When to look again at a model by how its evaluation ended; a failure is given back. -/
def afterOutcome : Outcome → Except BackendError Action
  | .ready => .ok (.requeue readyResync)
  | .pending => .ok (.requeue pendingRecheck)
  | .unsupported => .ok .awaitChange
  | .failed error => .error error

/-- Ends the evaluation of a model: unless it failed, its failures no longer count. -/
def conclude (model : Model) (outcome : Outcome) : Program (Except PassError Action) :=
  match afterOutcome outcome with
  | .error error => return .error (.backend model.backendKind error)
  | .ok action => do
    Program.leave (.settled model.id)
    return .ok action

/-- Stores the status of a model in its namespace. -/
def storeStatus (limit : Duration) (ns : String) (model : Model) (status : ModelStatus) :
    Program (Except BackendError Unit) :=
  Program.request (.applyStatus ⟨ns, model.shownName⟩ status) limit

/-- Evaluates a model and stores its status if that has changed. -/
def apply (registry : Registry) (limit : Duration) (now ns : String) (model : Model) :
    Program (Except PassError Action) := do
  let evaluation ← Evaluation.evaluate registry model now
  Program.leave (.reconciled model.backendKind evaluation.status.phase)
  if Evaluation.needsPatch model evaluation.status then
    match ← storeStatus limit ns model evaluation.status with
    | .error error => return .error (.status error)
    | .ok () =>
      Program.leave .statusPatched
      conclude model evaluation.outcome
  else conclude model evaluation.outcome

/-- Removes the routes that the controller created for a model. -/
def removeRoutes (registry : Registry) (model : Model) :
    Program (Except BackendError Removal) := do
  match registry.get? model.backendKind with
  | none => return .ok .unregistered
  | some backend =>
    if !backend.ownedByCore then return .ok .notOwned
    else
      Program.leave (.called .cleanup)
      match ← backend.cleanup model with
      | .ok () => return .ok .deleted
      | .error error =>
        if error.isNotImplemented then return .ok .notImplemented else return .error error

/-- Cleans up behind a model that is being deleted. -/
def cleanup (registry : Registry) (model : Model) : Program (Except PassError Action) := do
  match ← removeRoutes registry model with
  | .error error =>
    Program.leave (.cleanedUp model.backendKind false)
    return .error (.cleanup model.backendKind error)
  | .ok _ =>
    Program.leave (.cleanedUp model.backendKind true)
    Program.leave (.settled model.id)
    return .ok .awaitChange

/-- Sends a change of finalizers, for whose answer it waits without limit. -/
def patchFinalizers (id : ObjectId) (patch : FinalizerPatch) :
    Program (Except RequestError Unit) := do
  match ← Program.send (.patchFinalizers id patch) none with
  | .answered () => return .ok ()
  | .failed error => return .error error
  | .timedOut => return .error .unreadable

/-- The change that adds the finalizer behind those that a model carries. -/
def additionTo (finalizers : List String) : FinalizerPatch :=
  if finalizers.isEmpty then .addFirst else .append finalizers

/-- Adds the finalizer to a model. -/
def addFinalizer (ns : String) (model : Model) : Program (Except PassError Action) := do
  match model.metadata.name with
  | none => return .error .unnamed
  | some name =>
    match ← patchFinalizers ⟨ns, name⟩ (additionTo model.metadata.finalizerList) with
    | .error error => return .error (.addFinalizer error)
    | .ok () => return .ok .awaitChange

/-- Cleans up behind a model and then removes the finalizer at an index. -/
def finalize (registry : Registry) (ns : String) (model : Model) (index : Nat) :
    Program (Except PassError Action) := do
  match model.metadata.name with
  | none => return .error .unnamed
  | some name =>
    match ← cleanup registry model with
    | .error error => return .error error
    | .ok action =>
      match ← patchFinalizers ⟨ns, name⟩ (.remove index) with
      | .error error => return .error (.removeFinalizer error)
      | .ok () => return .ok action

/-- One pass over a model. A model without a namespace is left alone. -/
def reconcile (registry : Registry) (limit : Duration) (now : String) (model : Model) :
    Program (Except PassError Action) :=
  match model.metadata.ns with
  | none => return .ok .awaitChange
  | some ns =>
    match model.metadata.finalizerList.idxOf? Model.finalizer, model.metadata.isDeleting with
    | some _, false => apply registry limit now ns model
    | some index, true => finalize registry ns model index
    | none, false => addFinalizer ns model
    | none, true => return .ok .awaitChange

end Pass

end ModelGate

import ModelGate.Reconcile.Program

/-!
# Backends

A backend is a technology that serves models. For a model of its kind it reports the route, the
readiness and the endpoint, and removes what it created.
-/

namespace ModelGate

/-- Why a backend has no answer. -/
inductive BackendError where
  | notImplemented (kind : String)
  | unavailable (text : String)
  | timeout (limit : Duration)
  | request (error : RequestError)
  deriving DecidableEq, Repr

namespace BackendError

def message : BackendError → String
  | .notImplemented kind => "backend kind " ++ kind ++ " is not implemented"
  | .unavailable text => text
  | .timeout limit => "request timed out after " ++ Duration.text limit
  | .request error => error.message

/-- Whether the backend lacks what was asked of it. -/
def isNotImplemented : BackendError → Bool
  | .notImplemented _ => true
  | _ => false

end BackendError

/-- The route in front of a model and the gateway that it attaches to. -/
structure RouteReference where
  name : String
  ns : String
  gatewayName : String
  gatewayNamespace : String
  hostnames : List String
  deriving DecidableEq, Repr

namespace RouteReference

/-- A text, unless it is empty. -/
def nonEmpty (text : String) : Option String :=
  if text = "" then none else some text

/-- The route that a status records; it needs a name and a namespace. -/
def ofStatus? (status : ModelStatus) : Option RouteReference := do
  return {
    name := ← status.routeName
    ns := ← status.routeNamespace
    gatewayName := status.routeGatewayName.getD ""
    gatewayNamespace := status.routeGatewayNamespace.getD ""
    hostnames := status.routeHostnames }

/-- Records the route in a status; what is empty is left out. -/
def writeTo (route : RouteReference) (status : ModelStatus) : ModelStatus :=
  { status with
    routeName := nonEmpty route.name
    routeNamespace := nonEmpty route.ns
    routeGatewayName := nonEmpty route.gatewayName
    routeGatewayNamespace := nonEmpty route.gatewayNamespace
    routeHostnames := route.hostnames }

end RouteReference

/-- Where a model can be reached, and whether it is ready. -/
structure ModelEndpoint where
  endpoint : Option String
  ready : Bool
  deriving DecidableEq, Repr

/-- What every kind of backend can be asked. A backend only sends requests: the notes are those of
the controller. -/
structure Backend where
  /-- Whether the routes of this kind are created, and so deleted, by the controller. -/
  ownedByCore : Bool
  reconcileRoute : Model → Program (Except BackendError RouteReference)
  status : Model → RouteReference → Program (Except BackendError ModelEndpoint)
  modelEndpoint : Model → Program (Except BackendError String)
  cleanup : Model → Program (Except BackendError Unit)
  /-- The id of the route in front of a model, whoever owns it. -/
  resolve : Model → Except BackendError ObjectId
  reconcileRoute_isSilent : ∀ model, (reconcileRoute model).IsSilent := by intros; trivial
  status_isSilent : ∀ model route, (status model route).IsSilent := by intros; trivial
  modelEndpoint_isSilent : ∀ model, (modelEndpoint model).IsSilent := by intros; trivial
  cleanup_isSilent : ∀ model, (cleanup model).IsSilent := by intros; trivial

structure Registry where
  backends : List (String × Backend)

namespace Registry

def empty : Registry :=
  ⟨[]⟩

/-- Registers a backend; it replaces one of the same kind. -/
def register (r : Registry) (kind : String) (backend : Backend) : Registry :=
  ⟨(kind, backend) :: r.backends.filter (·.1 != kind)⟩

/-- The backend of a kind. -/
def get? (r : Registry) (kind : String) : Option Backend :=
  r.backends.lookup kind

/-- The registered kinds in ascending order. -/
def kinds (r : Registry) : List String :=
  (r.backends.map (·.1)).mergeSort fun a b => decide (a ≤ b)

def text (r : Registry) : String :=
  "Registry \x7b kinds: [" ++ ", ".intercalate (r.kinds.map Text.quoted) ++ "] \x7d"

/-- The id of the route in front of a model, if its kind is registered. -/
def resolve? (r : Registry) (model : Model) : Option (Except BackendError ObjectId) :=
  (r.get? model.backendKind).map fun backend => backend.resolve model

end Registry

namespace Program

/-- Sends a request on behalf of a backend. -/
def request (r : Request) (limit : Duration) : Program (Except BackendError r.Answer) := do
  match ← send r (some limit) with
  | .answered answer => return .ok answer
  | .failed error => return .error (.request error)
  | .timedOut => return .error (.timeout limit)

theorem isSilent_request (r : Request) (limit : Duration) : (request r limit).IsSilent := by
  unfold request
  refine isSilent_bind (isSilent_send r (some limit)) ?_
  intro reply
  cases reply <;> trivial

/-- Asks for an object that may be missing. -/
def find (r : Request) (limit : Duration) : Program (Except BackendError (Option r.Answer)) := do
  match ← request r limit with
  | .ok answer => return .ok (some answer)
  | .error (.request (.refused e)) =>
    if e.isNotFound then return .ok none else return .error (.request (.refused e))
  | .error error => return .error error

theorem isSilent_find (r : Request) (limit : Duration) : (find r limit).IsSilent := by
  unfold find
  refine isSilent_bind (isSilent_request r limit) ?_
  intro found
  split
  · trivial
  · split <;> trivial
  · trivial

end Program

end ModelGate

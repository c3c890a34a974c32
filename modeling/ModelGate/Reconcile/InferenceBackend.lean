import ModelGate.Reconcile.Backend

/-!
# Models served by inference services

The route of such a model comes with the service and is only observed. The model is ready once
its service says so and an endpoint is known: the URL of the service, or else the first hostname
of the route followed by the namespace and the name of the service.
-/

namespace ModelGate.InferenceBackend

def kind : String :=
  "llmisvc"

/-- Whether a model is served by the service with an id. -/
def references (model : Model) (service : ObjectId) : Bool :=
  model.backendKind == kind && model.backend.name == service.name &&
    model.backendNamespace == some service.ns

/-- The namespace of the service that serves a model. -/
def serviceNamespace (model : Model) : Except BackendError String :=
  match model.backendNamespace with
  | some ns => .ok ns
  | none => .error (.unavailable "MaaSModel has no namespace")

/-- The id of the route of the service that serves a model. -/
def resolve (model : Model) : Except BackendError ObjectId :=
  (serviceNamespace model).map fun ns => ⟨ns, HttpRoute.serviceRouteName model.backend.name⟩

/-- The endpoint of a service behind a route. -/
def endpoint (service : InferenceService) (route : RouteReference) : Option String :=
  match service.url with
  | some url => some url
  | none =>
    route.hostnames.head?.map fun hostname =>
      "https://" ++ hostname ++ "/" ++ service.metadata.ns.getD "" ++ "/" ++
        service.metadata.shownName

/-- The endpoint of a service behind a route, which must be known. -/
def knownEndpoint (model : Model) (service : InferenceService) (route : RouteReference) :
    Except BackendError String :=
  match endpoint service route with
  | some url => .ok url
  | none => .error (.unavailable ("no URL or hostname is known for " ++ model.shownName))

/-- The route that the status of a model records. -/
def recordedRoute (model : Model) : Option RouteReference :=
  model.status.bind RouteReference.ofStatus?

/-- Gets the service that serves a model. -/
def getService (limit : Duration) (model : Model) :
    Program (Except BackendError InferenceService) := do
  match serviceNamespace model with
  | .error error => return .error error
  | .ok ns =>
    let id : ObjectId := ⟨ns, model.backend.name⟩
    match ← Program.find (.getService id) limit with
    | .error error => return .error error
    | .ok (some service) => return .ok service
    | .ok none =>
      return .error (.unavailable ("LLMInferenceService " ++ id.display ++ " not found"))

theorem isSilent_getService (limit : Duration) (model : Model) :
    (getService limit model).IsSilent := by
  unfold getService
  split
  · exact Program.isSilent_pure _
  · refine Program.isSilent_bind (Program.isSilent_find _ limit) ?_
    intro found
    split <;> exact Program.isSilent_pure _

/-- The hostnames of a route: its own, or else those of its gateway. -/
def hostnames (limit : Duration) (route : HttpRoute) (gateway : GatewayRef) :
    Program (Except BackendError (List String)) := do
  if route.concreteHostnames.isEmpty then
    match ← Program.find (.getGateway ⟨gateway.ns, gateway.name⟩) limit with
    | .error error => return .error error
    | .ok (some found) => return .ok found.hostnames
    | .ok none => return .ok []
  else return .ok route.concreteHostnames

theorem isSilent_hostnames (limit : Duration) (route : HttpRoute) (gateway : GatewayRef) :
    (hostnames limit route gateway).IsSilent := by
  unfold hostnames
  split
  · refine Program.isSilent_bind (Program.isSilent_find _ limit) ?_
    intro found
    split <;> exact Program.isSilent_pure _
  · exact Program.isSilent_pure _

/-- Observes the route of the service that serves a model. -/
def observeRoute (default : GatewayRef) (limit : Duration) (model : Model)
    (service : InferenceService) : Program (Except BackendError RouteReference) := do
  match resolve model with
  | .error error => return .error error
  | .ok id =>
    match ← Program.find (.getRoute id) limit with
    | .error error => return .error error
    | .ok none => return .error (.unavailable ("HTTPRoute " ++ id.display ++ " not found"))
    | .ok (some route) =>
      if !route.isOwnedBy service then
        return .error (.unavailable ("HTTPRoute " ++ id.display ++
          " is not owned by LLMInferenceService " ++ service.metadata.id.display))
      else
        let gateway := route.gateway id.ns default
        match ← hostnames limit route gateway with
        | .error error => return .error error
        | .ok names => return .ok ⟨id.name, id.ns, gateway.name, gateway.ns, names⟩

theorem isSilent_observeRoute (default : GatewayRef) (limit : Duration) (model : Model)
    (service : InferenceService) : (observeRoute default limit model service).IsSilent := by
  unfold observeRoute
  split
  · exact Program.isSilent_pure _
  · refine Program.isSilent_bind (Program.isSilent_find _ limit) ?_
    intro found
    split
    · exact Program.isSilent_pure _
    · exact Program.isSilent_pure _
    · split
      · exact Program.isSilent_pure _
      · refine Program.isSilent_bind (isSilent_hostnames limit _ _) ?_
        intro names
        split <;> exact Program.isSilent_pure _

/-- Gets the service that serves a model and observes its route. -/
def reconcileRoute (default : GatewayRef) (limit : Duration) (model : Model) :
    Program (Except BackendError RouteReference) := do
  match ← getService limit model with
  | .error error => return .error error
  | .ok service => observeRoute default limit model service

theorem isSilent_reconcileRoute (default : GatewayRef) (limit : Duration) (model : Model) :
    (reconcileRoute default limit model).IsSilent := by
  unfold reconcileRoute
  refine Program.isSilent_bind (isSilent_getService limit model) ?_
  intro found
  split
  · exact Program.isSilent_pure _
  · exact isSilent_observeRoute default limit model _

/-- Reports the endpoint of a model and whether its service is ready. -/
def status (limit : Duration) (model : Model) (route : RouteReference) :
    Program (Except BackendError ModelEndpoint) := do
  match ← getService limit model with
  | .error error => return .error error
  | .ok service => return .ok ⟨endpoint service route, service.isReady⟩

theorem isSilent_status (limit : Duration) (model : Model) (route : RouteReference) :
    (status limit model route).IsSilent := by
  unfold status
  refine Program.isSilent_bind (isSilent_getService limit model) ?_
  intro found
  split <;> exact Program.isSilent_pure _

/-- Reports the endpoint of a model by the route that its status records, or else by observing
the route. -/
def modelEndpoint (default : GatewayRef) (limit : Duration) (model : Model) :
    Program (Except BackendError String) := do
  match ← getService limit model with
  | .error error => return .error error
  | .ok service =>
    match recordedRoute model with
    | some route => return knownEndpoint model service route
    | none =>
      match ← observeRoute default limit model service with
      | .error error => return .error error
      | .ok route => return knownEndpoint model service route

theorem isSilent_modelEndpoint (default : GatewayRef) (limit : Duration) (model : Model) :
    (modelEndpoint default limit model).IsSilent := by
  unfold modelEndpoint
  refine Program.isSilent_bind (isSilent_getService limit model) ?_
  intro found
  split
  · exact Program.isSilent_pure _
  · split
    · exact Program.isSilent_pure _
    · refine Program.isSilent_bind (isSilent_observeRoute default limit model _) ?_
      intro observed
      split <;> exact Program.isSilent_pure _

/-- The backend of these models: its routes belong to the services. -/
def backend (default : GatewayRef) (limit : Duration) : Backend where
  ownedByCore := false
  reconcileRoute := reconcileRoute default limit
  status := status limit
  modelEndpoint := modelEndpoint default limit
  cleanup := fun _ => return .ok ()
  resolve := resolve
  reconcileRoute_isSilent := isSilent_reconcileRoute default limit
  status_isSilent := isSilent_status limit
  modelEndpoint_isSilent := isSilent_modelEndpoint default limit

end ModelGate.InferenceBackend

import ModelGate.Cluster.ObjectKind
import ModelGate.Simulation.Table

/-!
# Clusters

The objects of a cluster, and what the API server does with a request about them. Time plays no
part here: a request is answered from the objects as they are when it arrives.
-/

namespace ModelGate

/-- A model in the cluster, with its status as it was last written. -/
structure StoredModel where
  model : Model
  written : Json

instance : HasMetadata StoredModel where
  metadata := (·.model.metadata)
  withMetadata stored metadata := { stored with model := { stored.model with metadata } }

instance : HasMetadata InferenceService where
  metadata := (·.metadata)
  withMetadata service metadata := { service with metadata }

instance : HasMetadata HttpRoute where
  metadata := (·.metadata)
  withMetadata route metadata := { route with metadata }

instance : HasMetadata Gateway where
  metadata := (·.metadata)
  withMetadata gateway metadata := { gateway with metadata }

instance : HasMetadata Metadata where
  metadata := id
  withMetadata _ metadata := metadata

/-- The objects of a cluster. Of leases only the metadata matter. -/
structure Cluster where
  models : Table StoredModel
  services : Table InferenceService
  routes : Table HttpRoute
  gateways : Table Gateway
  leases : Table Metadata

namespace ApiError

/-- Says that there is no object of a kind and a name. -/
def notFound (kind : ObjectKind) (name : String) : ApiError :=
  ⟨"Failure", kind.plural ++ "." ++ kind.group ++ " \"" ++ name ++ "\" not found", "NotFound", 404⟩

/-- Says that an object is not the one that a request is meant for. -/
def conflict (message : String) : ApiError :=
  ⟨"Failure", message, "Conflict", 409⟩

/-- Says that a change does not fit its object. -/
def invalid : ApiError :=
  ⟨"Failure", "the server rejected our request due to an error in our request", "Invalid", 422⟩

end ApiError

namespace FinalizerPatch

/-- The finalizers behind a change, if they are as it expects. -/
def applyTo (patch : FinalizerPatch) (finalizers : Option (List String)) :
    Option (List String) :=
  match patch with
  | .addFirst => if finalizers.isNone then some [Model.finalizer] else none
  | .append current =>
    if finalizers = some current then some (current ++ [Model.finalizer]) else none
  | .remove index =>
    let present := finalizers.getD []
    if present[index]? = some Model.finalizer then some (present.eraseIdx index) else none

end FinalizerPatch

namespace Cluster

def empty : Cluster :=
  ⟨.empty, .empty, .empty, .empty, .empty⟩

/-- Reads an object and creates or replaces it. -/
def put? (c : Cluster) (j : Json) : Option Cluster := do
  let kind ← ObjectKind.ofText? (← (← j.member? "kind").str?)
  match kind with
  | .model =>
    let model ← Model.ofJson? j
    return { c with
      models := c.models.insert model.id ⟨model, (j.member? "status").getD .null⟩ }
  | .service =>
    let service ← InferenceService.ofJson? j
    return { c with services := c.services.insert service.metadata.id service }
  | .route =>
    let route ← HttpRoute.ofJson? j
    return { c with routes := c.routes.insert route.metadata.id route }
  | .gateway =>
    let gateway ← Gateway.ofJson? j
    return { c with gateways := c.gateways.insert gateway.metadata.id gateway }
  | .lease =>
    let metadata ← Metadata.ofJson? (← j.member? "metadata")
    return { c with leases := c.leases.insert metadata.id metadata }

/-- Whether there is an object of a kind and an id. -/
def contains (c : Cluster) (kind : ObjectKind) (id : ObjectId) : Bool :=
  match kind with
  | .model => (c.models.get? id).isSome
  | .service => (c.services.get? id).isSome
  | .route => (c.routes.get? id).isSome
  | .gateway => (c.gateways.get? id).isSome
  | .lease => (c.leases.get? id).isSome

/-- Deletes an object at a point of time. -/
def delete (c : Cluster) (kind : ObjectKind) (id : ObjectId) (now : String) : Cluster :=
  match kind with
  | .model => { c with models := c.models.delete id now }
  | .service => { c with services := c.services.delete id now }
  | .route => { c with routes := c.routes.delete id now }
  | .gateway => { c with gateways := c.gateways.delete id now }
  | .lease => { c with leases := c.leases.delete id now }

/-- The object of an id, or else the refusal of a request for it. -/
def find {α : Type} (t : Table α) (kind : ObjectKind) (id : ObjectId) : Except ApiError α :=
  match t.get? id with
  | some a => .ok a
  | none => .error (.notFound kind id.name)

/-- Deletes a route that still has the expected unique id. -/
def deleteRoute (c : Cluster) (id : ObjectId) (uid : Option String) (now : String) :
    Except ApiError Cluster := do
  let route ← find c.routes .route id
  if uid.isSome && route.metadata.uid != uid then
    throw (.conflict ("the unique id of " ++ id.display ++ " has changed"))
  else return c.delete .route id now

/-- Changes the finalizers of a model. -/
def patchFinalizers (c : Cluster) (id : ObjectId) (patch : FinalizerPatch) :
    Except ApiError Cluster := do
  let stored ← find c.models .model id
  match patch.applyTo stored.model.metadata.finalizers with
  | none => throw .invalid
  | some finalizers =>
    let metadata := { stored.model.metadata with finalizers := some finalizers }
    return { c with models := c.models.update id (HasMetadata.withMetadata stored metadata) }

/-- Replaces the status of a model. -/
def applyStatus (c : Cluster) (id : ObjectId) (status : ModelStatus) :
    Except ApiError Cluster := do
  let stored ← find c.models .model id
  let model := { stored.model with status := some status }
  return { c with models := c.models.update id ⟨model, status.toJson⟩ }

/-- Creates the write lease, unless it is there. -/
def createLease (c : Cluster) (lease : WriteLease) : Except ApiError Cluster :=
  let id : ObjectId := ⟨lease.ns, WriteLease.name⟩
  match c.leases.get? id with
  | some _ =>
    throw (.conflict ("leases.coordination.k8s.io/v1 \"" ++ WriteLease.name ++ "\" exists"))
  | none =>
    let metadata := { Metadata.blank with name := some WriteLease.name, ns := some lease.ns }
    return { c with leases := c.leases.insert id metadata }

/-- What a change that may be refused answers, and the cluster behind it. -/
def commit (c : Cluster) (change : Except ApiError Cluster) : Except ApiError Unit × Cluster :=
  match change with
  | .ok changed => (.ok (), changed)
  | .error error => (.error error, c)

/-- What the API server answers to a request at a point of time, and the cluster behind it. -/
def answer (c : Cluster) (now : String) : (r : Request) → Except ApiError r.Answer × Cluster
  | .getService id => (find c.services .service id, c)
  | .getRoute id => (find c.routes .route id, c)
  | .getGateway id => (find c.gateways .gateway id, c)
  | .deleteRoute id uid => c.commit (c.deleteRoute id uid now)
  | .patchFinalizers id patch => c.commit (c.patchFinalizers id patch)
  | .applyStatus id status => c.commit (c.applyStatus id status)
  | .createLease lease => c.commit (c.createLease lease)

/-- The models served by the service of an id, in their order. -/
def served (c : Cluster) (references : Model → ObjectId → Bool) (service : ObjectId) :
    List ObjectId :=
  (c.models.sorted.filter fun entry => references entry.2.model service).map (·.1)

end Cluster

end ModelGate

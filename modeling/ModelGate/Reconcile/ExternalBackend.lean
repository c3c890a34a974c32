import ModelGate.Reconcile.Backend

/-!
# Models served outside the cluster

Such models can be declared, but no route is created for them yet. Deleting one already removes
the route that would be its own, if and only if the route is controlled by the model.
-/

namespace ModelGate.ExternalBackend

def kind : String :=
  "ExternalModel"

/-- The id of the route that belongs to a model. -/
def resolve (model : Model) : Except BackendError ObjectId :=
  match model.metadata.ns with
  | some ns => .ok ⟨ns, HttpRoute.ownedName model.shownName⟩
  | none => .error (.unavailable "MaaSModel has no namespace")

/-- Deletes exactly the route that was read; it counts as deleted if it is gone already. -/
def deleteRoute (limit : Duration) (id : ObjectId) (route : HttpRoute) :
    Program (Except BackendError Unit) := do
  match ← Program.request (.deleteRoute id route.metadata.uid) limit with
  | .error (.request (.refused e)) =>
    if e.code = 404 then return .ok () else return .error (.request (.refused e))
  | other => return other

theorem isSilent_deleteRoute (limit : Duration) (id : ObjectId) (route : HttpRoute) :
    (deleteRoute limit id route).IsSilent := by
  unfold deleteRoute
  refine Program.isSilent_bind (Program.isSilent_request _ limit) ?_
  intro deleted
  split
  · split <;> exact Program.isSilent_pure _
  · exact Program.isSilent_pure _

/-- Deletes a route if it is controlled by a model. -/
def deleteIfControlled (limit : Duration) (id : ObjectId) (model : Model) :
    Program (Except BackendError Unit) := do
  match ← Program.find (.getRoute id) limit with
  | .error error => return .error error
  | .ok none => return .ok ()
  | .ok (some route) =>
    if route.isControlledBy model then deleteRoute limit id route else return .ok ()

theorem isSilent_deleteIfControlled (limit : Duration) (id : ObjectId) (model : Model) :
    (deleteIfControlled limit id model).IsSilent := by
  unfold deleteIfControlled
  refine Program.isSilent_bind (Program.isSilent_find _ limit) ?_
  intro found
  split
  · exact Program.isSilent_pure _
  · exact Program.isSilent_pure _
  · split
    · exact isSilent_deleteRoute limit id _
    · exact Program.isSilent_pure _

/-- Removes the route of a model that is being deleted. -/
def cleanup (limit : Duration) (model : Model) : Program (Except BackendError Unit) :=
  match resolve model with
  | .error error => return .error error
  | .ok id => deleteIfControlled limit id model

theorem isSilent_cleanup (limit : Duration) (model : Model) : (cleanup limit model).IsSilent := by
  unfold cleanup
  split
  · exact Program.isSilent_pure _
  · exact isSilent_deleteIfControlled limit _ model

/-- The backend of these models: its routes belong to the controller. -/
def backend (limit : Duration) : Backend where
  ownedByCore := true
  reconcileRoute := fun _ => return .error (.notImplemented kind)
  status := fun _ _ => return .error (.notImplemented kind)
  modelEndpoint := fun _ => return .error (.notImplemented kind)
  cleanup := cleanup limit
  resolve := resolve
  cleanup_isSilent := isSilent_cleanup limit

end ModelGate.ExternalBackend

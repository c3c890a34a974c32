import Mathlib
import ModelGate.Proofs.Simulation.RouteRemoval

/-!
# The footprint of a request

What the API server changes on a request for a model or a route is that one object, and of a model
only its finalizers and its status.  `ChangesOnly` says so of two clusters, and each kind of request
that a controller may send has a lemma that puts its answer into this form.
-/

namespace ModelGate

/-- A model without what a controller writes: its finalizers and its status. -/
def Model.withoutManaged (m : Model) : Model :=
  { m with metadata := { m.metadata with finalizers := none }, status := none }

/-- Two clusters that differ in one model and one route at most, and in the model only by what a
controller writes. -/
structure ChangesOnly (model route : ObjectId) (before after : Cluster) : Prop where
  services : after.services = before.services
  gateways : after.gateways = before.gateways
  leases : after.leases = before.leases
  models : ∀ other, other ≠ model → after.models.get? other = before.models.get? other
  routes : ∀ other, other ≠ route → after.routes.get? other = before.routes.get? other
  managed : ∀ stored, after.models.get? model = some stored →
    ∃ former, before.models.get? model = some former ∧
      stored.model.withoutManaged = former.model.withoutManaged

theorem Table.get?_update_eq_some {α : Type} [HasMetadata α] {t : Table α} {id : ObjectId} {a b : α}
    (h : (t.update id a).get? id = some b) : b = a := by
  unfold update at h
  dsimp only at h
  split at h
  · rw [get?_erase, if_pos rfl] at h
    cases h
  · rw [get?_insert, if_pos rfl] at h
    exact (Option.some.inj h).symm

namespace ChangesOnly

variable {c : Cluster} {model route : ObjectId}

theorem refl (c : Cluster) (model route : ObjectId) : ChangesOnly model route c c where
  services := rfl
  gateways := rfl
  leases := rfl
  models := fun _ _ => rfl
  routes := fun _ _ => rfl
  managed := fun stored hstored => ⟨stored, hstored, rfl⟩

/-- Putting a model back with other finalizers or another status. -/
theorem updateModel {former next : StoredModel} (hformer : c.models.get? model = some former)
    (hnext : next.model.withoutManaged = former.model.withoutManaged) (route : ObjectId) :
    ChangesOnly model route c { c with models := c.models.update model next } where
  services := rfl
  gateways := rfl
  leases := rfl
  models := fun _ hother => Table.get?_update_of_ne _ _ hother
  routes := fun _ _ => rfl
  managed := by
    intro stored hstored
    rw [Table.get?_update_eq_some hstored]
    exact ⟨former, hformer, hnext⟩

theorem commit {change : Except ApiError Cluster}
    (h : ∀ changed, change = .ok changed → ChangesOnly model route c changed) :
    ChangesOnly model route c (c.commit change).2 := by
  cases hchange : change with
  | error error => exact refl c model route
  | ok changed => exact h changed hchange

variable (now : String)

theorem answer_of_isRead {r : Request} (h : r.isRead = true) :
    ChangesOnly model route c (c.answer now r).2 := by
  cases r with
  | getService id => exact refl c model route
  | getRoute id => exact refl c model route
  | getGateway id => exact refl c model route
  | deleteRoute id uid => cases h
  | patchFinalizers id patch => cases h
  | applyStatus id status => cases h
  | createLease lease => cases h

theorem answer_patchFinalizers (patch : FinalizerPatch) :
    ChangesOnly model route c (c.answer now (.patchFinalizers model patch)).2 := by
  refine commit ?_
  intro changed hchanged
  obtain ⟨stored, finalizers, hstored, -, rfl⟩ := Cluster.patchFinalizers_eq_ok hchanged
  refine updateModel hstored ?_ route
  rfl

theorem answer_applyStatus (status : ModelStatus) :
    ChangesOnly model route c (c.answer now (.applyStatus model status)).2 := by
  refine commit ?_
  intro changed hchanged
  obtain ⟨stored, hstored, rfl⟩ := Cluster.applyStatus_eq_ok hchanged
  refine updateModel hstored ?_ route
  rfl

theorem answer_deleteRoute (uid : Option String) :
    ChangesOnly model route c (c.answer now (.deleteRoute route uid)).2 := by
  refine commit ?_
  intro changed hchanged
  obtain ⟨found, -, -, rfl⟩ := Cluster.deleteRoute_eq_ok hchanged
  exact {
    services := rfl
    gateways := rfl
    leases := rfl
    models := fun _ _ => rfl
    routes := fun _ hother => Table.get?_delete_of_ne _ _ hother
    managed := fun stored hstored => ⟨stored, hstored, rfl⟩ }

end ChangesOnly

end ModelGate

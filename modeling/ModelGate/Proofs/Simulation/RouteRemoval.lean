import Mathlib
import ModelGate.Proofs.Simulation.OtherFinalizers

/-!
# Requests that remove routes

The API server changes a route on one kind of request only, the deletion that names it, and only if
the route has the unique id that the deletion expects (`deletes_of_route_changed`).
-/

namespace ModelGate

namespace Table

variable {α : Type} [HasMetadata α]

theorem get?_update_of_ne (t : Table α) {id other : ObjectId} (a : α) (h : other ≠ id) :
    (t.update id a).get? other = t.get? other := by
  unfold update
  dsimp only
  split
  · rw [get?_erase, if_neg h]
  · rw [get?_insert, if_neg h]

theorem get?_delete_of_ne (t : Table α) {id other : ObjectId} (now : String) (h : other ≠ id) :
    (t.delete id now).get? other = t.get? other := by
  unfold delete
  split
  · rfl
  · exact get?_update_of_ne t _ h

end Table

namespace Cluster

variable {c changed : Cluster}

theorem routes_commit {change : Except ApiError Cluster}
    (h : ∀ changed, change = .ok changed → changed.routes = c.routes) :
    (c.commit change).2.routes = c.routes := by
  cases hchange : change with
  | error error => rfl
  | ok changed => exact h changed hchange

theorem routes_patchFinalizers {id : ObjectId} {patch : FinalizerPatch}
    (h : c.patchFinalizers id patch = .ok changed) : changed.routes = c.routes := by
  obtain ⟨stored, finalizers, -, -, rfl⟩ := patchFinalizers_eq_ok h
  rfl

theorem routes_applyStatus {id : ObjectId} {status : ModelStatus}
    (h : c.applyStatus id status = .ok changed) : changed.routes = c.routes := by
  obtain ⟨stored, -, rfl⟩ := applyStatus_eq_ok h
  rfl

theorem routes_createLease {lease : WriteLease} (h : c.createLease lease = .ok changed) :
    changed.routes = c.routes := by
  unfold createLease at h
  dsimp only at h
  split at h
  · cases h
  · cases h
    rfl

/-- A deletion that is carried out names a route that has the expected unique id. -/
theorem deleteRoute_eq_ok {id : ObjectId} {uid : Option String} {now : String}
    (h : c.deleteRoute id uid now = .ok changed) :
    ∃ route, c.routes.get? id = some route ∧ (uid = none ∨ route.metadata.uid = uid) ∧
      changed = c.delete .route id now := by
  unfold deleteRoute find at h
  cases hroute : c.routes.get? id with
  | none =>
      rw [hroute] at h
      cases h
  | some route =>
      rw [hroute] at h
      simp only [bind, Except.bind] at h
      split at h
      · cases h
      · next hexpected =>
          refine ⟨route, rfl, ?_, (Except.ok.inj h).symm⟩
          cases uid with
          | none => exact Or.inl rfl
          | some uid => exact Or.inr (by simpa using hexpected)

/-- Only a deletion that names a route and expects its unique id changes the route. -/
theorem deletes_of_route_changed {now : String} {r : Request} {id : ObjectId} {route : HttpRoute}
    (hroute : c.routes.get? id = some route)
    (hchanged : (c.answer now r).2.routes.get? id ≠ some route) :
    ∃ uid, r = .deleteRoute id uid ∧ (uid = none ∨ route.metadata.uid = uid) := by
  have hkept : (c.answer now r).2.routes ≠ c.routes := by
    intro hsame
    rw [hsame] at hchanged
    exact hchanged hroute
  cases r with
  | getService other => exact absurd rfl hkept
  | getRoute other => exact absurd rfl hkept
  | getGateway other => exact absurd rfl hkept
  | patchFinalizers other patch =>
      exact absurd (routes_commit fun _ => routes_patchFinalizers) hkept
  | applyStatus other status => exact absurd (routes_commit fun _ => routes_applyStatus) hkept
  | createLease lease => exact absurd (routes_commit fun _ => routes_createLease) hkept
  | deleteRoute other uid =>
      change (c.commit (c.deleteRoute other uid now)).2.routes.get? id ≠ some route at hchanged
      cases hdelete : c.deleteRoute other uid now with
      | error error =>
          rw [hdelete] at hchanged
          exact absurd hroute hchanged
      | ok changed =>
          obtain ⟨found, hfound, hexpected, hresult⟩ := deleteRoute_eq_ok hdelete
          rw [hdelete, hresult] at hchanged
          change (c.routes.delete other now).get? id ≠ some route at hchanged
          have hother : id = other := by
            by_contra hne
            rw [Table.get?_delete_of_ne _ _ hne] at hchanged
            exact hchanged hroute
          subst hother
          rw [hroute] at hfound
          cases hfound
          exact ⟨uid, rfl, hexpected⟩

end Cluster

end ModelGate

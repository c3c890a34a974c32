import ModelGate.Proofs.Lookup
import ModelGate.Simulation.Cluster

/-!
# Finalizers of others

Whatever the controller asks of the API server, every model keeps the finalizers that are not the
controller's, in their order.  A change of finalizers only ever adds or removes the controller's
own, because the server refuses a change whose expectation does not hold.
-/

namespace ModelGate

/-! ## Changes of finalizers -/

/-- Whether a finalizer is not the controller's. -/
def isOther (finalizer : String) : Bool :=
  finalizer != Model.finalizer

theorem filter_isOther_eraseIdx {finalizers : List String} {index : Nat}
    (h : finalizers[index]? = some Model.finalizer) :
    (finalizers.eraseIdx index).filter isOther = finalizers.filter isOther := by
  induction finalizers generalizing index with
  | nil => cases h
  | cons finalizer rest ih =>
      cases index with
      | zero =>
          have hown : finalizer = Model.finalizer := by simpa using h
          rw [List.eraseIdx_cons_zero, List.filter_cons_of_neg (by simp [isOther, hown])]
      | succ index =>
          rw [List.eraseIdx_cons_succ, List.filter_cons, List.filter_cons, ih (by simpa using h)]

/-- A change that is accepted keeps the finalizers of others. -/
theorem filter_isOther_applyTo {patch : FinalizerPatch} {before : Option (List String)}
    {after : List String} (h : patch.applyTo before = some after) :
    after.filter isOther = (before.getD []).filter isOther := by
  cases patch with
  | addFirst =>
      cases before with
      | none =>
          cases h
          rfl
      | some finalizers => cases h
  | append current =>
      change (if before = some current then some (current ++ [Model.finalizer]) else none) =
        some after at h
      by_cases hcurrent : before = some current
      · rw [if_pos hcurrent] at h
        rw [hcurrent, ← Option.some.inj h, List.filter_append]
        simp [isOther]
      · rw [if_neg hcurrent] at h
        cases h
  | remove index =>
      change (if (before.getD [])[index]? = some Model.finalizer then
        some ((before.getD []).eraseIdx index) else none) = some after at h
      by_cases hpresent : (before.getD [])[index]? = some Model.finalizer
      · rw [if_pos hpresent] at h
        rw [← Option.some.inj h]
        exact filter_isOther_eraseIdx hpresent
      · rw [if_neg hpresent] at h
        cases h

/-! ## Requests -/

namespace Cluster

/-- The finalizers of a model that are not the controller's; none if there is no model. -/
def otherFinalizers (c : Cluster) (id : ObjectId) : List String :=
  (c.models.get? id).elim [] fun stored => stored.model.metadata.finalizerList.filter isOther

/-- Putting a model back keeps its other finalizers, also when it goes for want of finalizers. -/
theorem otherFinalizers_update {c : Cluster} {id : ObjectId} {stored next : StoredModel}
    (hstored : c.models.get? id = some stored)
    (hsame : next.model.metadata.finalizerList.filter isOther =
      stored.model.metadata.finalizerList.filter isOther) (other : ObjectId) :
    otherFinalizers { c with models := c.models.update id next } other = otherFinalizers c other := by
  unfold otherFinalizers Table.update
  dsimp only
  by_cases hother : other = id
  · subst hother
    split
    · next hgone =>
        -- A model that is being deleted goes with its last finalizer, so others held none on it.
        have hempty : next.model.metadata.finalizerList = [] :=
          List.isEmpty_iff.1 (Bool.and_eq_true_iff.1 hgone).2
        rw [Table.get?_erase, if_pos rfl, hstored]
        rw [hempty] at hsame
        exact hsame
    · rw [Table.get?_insert, if_pos rfl, hstored]
      exact hsame
  · split
    · rw [Table.get?_erase, if_neg hother]
    · rw [Table.get?_insert, if_neg hother]

theorem otherFinalizers_commit {c : Cluster} {change : Except ApiError Cluster} {id : ObjectId}
    (h : ∀ changed, change = .ok changed → otherFinalizers changed id = otherFinalizers c id) :
    otherFinalizers (c.commit change).2 id = otherFinalizers c id := by
  cases hchange : change with
  | error error => rfl
  | ok changed => exact h changed hchange

/-- A change of finalizers that is carried out finds its model, and puts it back as changed. -/
theorem patchFinalizers_eq_ok {c changed : Cluster} {id : ObjectId} {patch : FinalizerPatch}
    (h : c.patchFinalizers id patch = .ok changed) :
    ∃ stored finalizers, c.models.get? id = some stored ∧
      patch.applyTo stored.model.metadata.finalizers = some finalizers ∧
      changed = { c with
        models := c.models.update id (HasMetadata.withMetadata stored
          { stored.model.metadata with finalizers := some finalizers }) } := by
  unfold patchFinalizers find at h
  cases hstored : c.models.get? id with
  | none =>
      rw [hstored] at h
      cases h
  | some stored =>
      rw [hstored] at h
      simp only [bind, Except.bind] at h
      split at h
      · cases h
      · next finalizers happly => exact ⟨stored, finalizers, rfl, happly, (Except.ok.inj h).symm⟩

/-- A status that is stored finds its model. -/
theorem applyStatus_eq_ok {c changed : Cluster} {id : ObjectId} {status : ModelStatus}
    (h : c.applyStatus id status = .ok changed) :
    ∃ stored, c.models.get? id = some stored ∧
      changed = { c with
        models := c.models.update id
          ⟨{ stored.model with status := some status }, status.toJson⟩ } := by
  unfold applyStatus find at h
  cases hstored : c.models.get? id with
  | none =>
      rw [hstored] at h
      cases h
  | some stored =>
      rw [hstored] at h
      exact ⟨stored, rfl, (Except.ok.inj h).symm⟩

theorem otherFinalizers_patchFinalizers {c changed : Cluster} {id : ObjectId}
    {patch : FinalizerPatch} (h : c.patchFinalizers id patch = .ok changed) (other : ObjectId) :
    otherFinalizers changed other = otherFinalizers c other := by
  obtain ⟨stored, finalizers, hstored, happly, rfl⟩ := patchFinalizers_eq_ok h
  exact otherFinalizers_update hstored (filter_isOther_applyTo happly) other

theorem otherFinalizers_applyStatus {c changed : Cluster} {id : ObjectId} {status : ModelStatus}
    (h : c.applyStatus id status = .ok changed) (other : ObjectId) :
    otherFinalizers changed other = otherFinalizers c other := by
  obtain ⟨stored, hstored, rfl⟩ := applyStatus_eq_ok h
  refine otherFinalizers_update hstored ?_ other
  rfl

/-- No request takes a finalizer of others from a model or gives it one. -/
theorem otherFinalizers_answer (c : Cluster) (now : String) (r : Request) (id : ObjectId) :
    otherFinalizers (c.answer now r).2 id = otherFinalizers c id := by
  cases r with
  | getService other => rfl
  | getRoute other => rfl
  | getGateway other => rfl
  | deleteRoute other uid =>
      refine otherFinalizers_commit ?_
      intro changed h
      unfold deleteRoute find at h
      cases hroute : c.routes.get? other with
      | none =>
          rw [hroute] at h
          cases h
      | some route =>
          rw [hroute] at h
          simp only [bind, Except.bind] at h
          split at h
          · cases h
          · cases h
            rfl
  | patchFinalizers other patch =>
      exact otherFinalizers_commit fun changed h => otherFinalizers_patchFinalizers h id
  | applyStatus other status =>
      exact otherFinalizers_commit fun changed h => otherFinalizers_applyStatus h id
  | createLease lease =>
      refine otherFinalizers_commit ?_
      intro changed h
      unfold createLease at h
      dsimp only at h
      split at h
      · cases h
      · cases h
        rfl

end Cluster

end ModelGate

import Mathlib
import ModelGate.Proofs.Reconcile.Answers
import ModelGate.Reconcile.Pass

/-!
# What a pass over a model leaves behind

Each part of a pass has one lemma that says what it adds to the trace and what it results in, for
all replies; the lemmas of the larger parts are put together from those of the smaller ones by
`run_bind`.

A backend is silent, so all that it adds are requests (`run_of_isSilent`), and the note of its call
stands in front of them.
-/

namespace ModelGate

open Program (Event Replies requests run run_bind run_pure run_leave run_of_isSilent)

/-- A status has to be stored if and only if the model carries another one, or none. -/
theorem Evaluation.needsPatch_iff {model : Model} {status : ModelStatus} :
    needsPatch model status = true ↔ model.status ≠ some status :=
  bne_iff_ne

namespace Pass

variable {reply : Replies} {past : List Event} {registry : Registry} {limit : Duration}
  {now ns : String} {model : Model}

/-! ## A model that is served -/

/-- What the storing of a status leaves behind: nothing, if the model carries that status or has no
name; or else a request, which may go well. -/
inductive StoreTrace (limit : Duration) (ns : String) (model : Model) (status : ModelStatus) :
    List Event → Prop
  | unneeded (h : Evaluation.needsPatch model status = false) :
      StoreTrace limit ns model status []
  | unnamed (h : model.shownName = "") : StoreTrace limit ns model status []
  | refused (h : Evaluation.needsPatch model status = true) :
      StoreTrace limit ns model status
        [.sent (.applyStatus ⟨ns, model.shownName⟩ status) (some limit)]
  | stored (h : Evaluation.needsPatch model status = true) :
      StoreTrace limit ns model status
        [.sent (.applyStatus ⟨ns, model.shownName⟩ status) (some limit), .noted .statusPatched]

/-- How the pass over a served model ends: the failures of the model no longer count, or the pass
fails. -/
inductive AppliedAs (model : Model) : List Event → Except PassError Action → Prop
  | settled (action : Action) : AppliedAs model [.noted (.settled model.id)] (.ok action)
  | failed (error : PassError) : AppliedAs model [] (.error error)

theorem run_conclude (reply : Replies) (model : Model) (outcome : Outcome) (past : List Event) :
    ∃ ending, AppliedAs model ending (run reply past (conclude model outcome)).2 ∧
      (run reply past (conclude model outcome)).1 = past ++ ending := by
  unfold conclude
  cases afterOutcome outcome with
  | error error => exact ⟨[], .failed _, by rw [run_pure, List.append_nil]⟩
  | ok action => exact ⟨_, .settled action, rfl⟩

/-- The request for a status is sent, unless it does not name its model. -/
theorem run_storeStatus (reply : Replies) (limit : Duration) (ns : String) (model : Model)
    (status : ModelStatus) (past : List Event) :
    (model.shownName = "" ∧
        ∃ error, run reply past (storeStatus limit ns model status) = (past, .error error)) ∨
      (run reply past (storeStatus limit ns model status)).1 =
        past ++ [.sent (.applyStatus ⟨ns, model.shownName⟩ status) (some limit)] := by
  unfold storeStatus
  by_cases hname : (Request.applyStatus ⟨ns, model.shownName⟩ status).target.name = ""
  · exact Or.inl ⟨hname, _, Program.run_request_of_unnamed limit hname⟩
  · exact Or.inr (congrArg Prod.fst (Program.run_request_of_named limit hname))

/-- The pass over a served model behind its evaluation. -/
def record (limit : Duration) (ns : String) (model : Model) (evaluation : Evaluation) :
    Program (Except PassError Action) := do
  Program.leave (.reconciled model.backendKind evaluation.status.phase)
  if Evaluation.needsPatch model evaluation.status then
    match ← storeStatus limit ns model evaluation.status with
    | .error error => return .error (.status error)
    | .ok () =>
      Program.leave .statusPatched
      conclude model evaluation.outcome
  else conclude model evaluation.outcome

theorem apply_eq (registry : Registry) (limit : Duration) (now ns : String) (model : Model) :
    apply registry limit now ns model =
      Evaluation.evaluate registry model now >>= record limit ns model :=
  rfl

/-- The pass over a model that is served: the calls of its backend, the storing of the status that
they led to, and the end of the pass. -/
theorem run_apply (reply : Replies) (registry : Registry) (limit : Duration) (now ns : String)
    (model : Model) (past : List Event) :
    ∃ calls store ending,
      Evaluation.CallTrace (Evaluation.answers reply registry model past) calls ∧
      StoreTrace limit ns model
        (run reply past (Evaluation.evaluate registry model now)).2.status store ∧
      AppliedAs model ending (run reply past (apply registry limit now ns model)).2 ∧
      (run reply past (apply registry limit now ns model)).1 = past ++ calls ++
        .noted (.reconciled model.backendKind
          (run reply past (Evaluation.evaluate registry model now)).2.status.phase) ::
          (store ++ ending) := by
  obtain ⟨calls, hcalls, hevaluate⟩ := Evaluation.run_evaluate_eq reply registry model now past
  rw [apply_eq, run_bind, hevaluate]
  generalize ((Evaluation.answers reply registry model past).verdict
    model.backendKind).evaluation model now = evaluation
  unfold record
  rw [run_bind, run_leave]
  dsimp only
  -- What stands in front of the storing of the status stays as it is.
  generalize hfront : past ++ calls ++
    [.noted (.reconciled model.backendKind evaluation.status.phase)] = front
  have happend : ∀ rest, front ++ rest =
      past ++ calls ++ .noted (.reconciled model.backendKind evaluation.status.phase) :: rest := by
    intro rest
    rw [← hfront]
    simp
  by_cases hpatch : Evaluation.needsPatch model evaluation.status = true
  · rw [if_pos hpatch, run_bind]
    rcases run_storeStatus reply limit ns model evaluation.status front with
      ⟨hname, error, hstore⟩ | hstore
    · rw [hstore]
      refine ⟨calls, [], [], hcalls, .unnamed hname, .failed _, ?_⟩
      rw [run_pure, ← happend]
      simp
    · rw [hstore]
      cases (run reply front (storeStatus limit ns model evaluation.status)).2 with
      | error error =>
          refine ⟨calls, _, [], hcalls, .refused hpatch, .failed _, ?_⟩
          rw [run_pure, ← happend]
          simp
      | ok answer =>
          dsimp only
          rw [run_bind, run_leave]
          obtain ⟨ending, hending, hconclude⟩ := run_conclude reply model evaluation.outcome
            (front ++ [.sent (.applyStatus ⟨ns, model.shownName⟩ evaluation.status) (some limit)] ++
              [.noted .statusPatched])
          refine ⟨calls, _, ending, hcalls, .stored hpatch, hending, ?_⟩
          rw [hconclude, ← happend]
          simp
  · rw [if_neg hpatch]
    obtain ⟨ending, hending, hconclude⟩ := run_conclude reply model evaluation.outcome front
    refine ⟨calls, [], ending, hcalls, .unneeded (by simpa using hpatch), hending, ?_⟩
    rw [hconclude, ← happend]
    simp

/-! ## A model that is being deleted -/

/-- Whether routes of the kind of a model belong to the controller. -/
def OwnsRoutes (registry : Registry) (model : Model) : Prop :=
  ∃ backend, registry.get? model.backendKind = some backend ∧ backend.ownedByCore = true

/-- What the removal of the routes of a model leaves behind: nothing, or the call of a backend whose
routes belong to the controller. -/
inductive RemovalTrace (registry : Registry) (model : Model) : List Event → Prop
  | uncalled : RemovalTrace registry model []
  | called (howns : OwnsRoutes registry model) (sent : List (Request × Option Duration)) :
      RemovalTrace registry model (.noted (.called .cleanup) :: requests sent)

/-- A backend whose routes belong to the controller is called, and nothing else is done. -/
theorem run_removeRoutes_of_owned {backend : Backend}
    (hget : registry.get? model.backendKind = some backend) (howned : backend.ownedByCore = true) :
    (run reply past (removeRoutes registry model)).1 =
      (run reply (past ++ [.noted (.called .cleanup)]) (backend.cleanup model)).1 := by
  unfold removeRoutes
  rw [hget]
  dsimp only
  rw [if_neg (by simp [howned]), run_bind, run_leave, run_bind]
  split
  · rw [run_pure]
  · split
    · rw [run_pure]
    · rw [run_pure]

theorem run_removeRoutes_of_unowned
    (h : ∀ backend, registry.get? model.backendKind = some backend → backend.ownedByCore = false) :
    (run reply past (removeRoutes registry model)).1 = past := by
  unfold removeRoutes
  cases hget : registry.get? model.backendKind with
  | none => rfl
  | some backend =>
      dsimp only
      rw [if_pos (by simp [h backend hget])]
      rfl

theorem run_removeRoutes (reply : Replies) (registry : Registry) (model : Model)
    (past : List Event) :
    ∃ calls, RemovalTrace registry model calls ∧
      (run reply past (removeRoutes registry model)).1 = past ++ calls := by
  by_cases howns : OwnsRoutes registry model
  · obtain ⟨backend, hget, howned⟩ := howns
    obtain ⟨sent, hsent⟩ := run_of_isSilent reply (backend.cleanup_isSilent model)
      (past ++ [.noted (.called .cleanup)])
    refine ⟨_, .called ⟨backend, hget, howned⟩ sent, ?_⟩
    rw [run_removeRoutes_of_owned hget howned, hsent]
    simp
  · refine ⟨[], .uncalled, ?_⟩
    rw [List.append_nil]
    refine run_removeRoutes_of_unowned fun backend hget => ?_
    cases howned : backend.ownedByCore with
    | false => rfl
    | true => exact absurd ⟨backend, hget, howned⟩ howns

/-- A failed removal is noted, and the pass fails with it. -/
theorem run_cleanup_of_error {error : BackendError}
    (h : (run reply past (removeRoutes registry model)).2 = .error error) :
    run reply past (cleanup registry model) =
      ((run reply past (removeRoutes registry model)).1 ++
        [.noted (.cleanedUp model.backendKind false)],
        .error (.cleanup model.backendKind error)) := by
  unfold cleanup
  rw [run_bind, h]
  rfl

/-- After the removal the failures of the model no longer count. -/
theorem run_cleanup_of_ok {removal : Removal}
    (h : (run reply past (removeRoutes registry model)).2 = .ok removal) :
    run reply past (cleanup registry model) =
      ((run reply past (removeRoutes registry model)).1 ++
        [.noted (.cleanedUp model.backendKind true), .noted (.settled model.id)],
        .ok .awaitChange) := by
  unfold cleanup
  rw [run_bind, h]
  dsimp only
  rw [run_bind, run_leave, run_bind, run_leave, run_pure]
  simp

/-- The request for a change of finalizers, which has to name its object. -/
def patchRequests (id : ObjectId) (patch : FinalizerPatch) : List (Request × Option Duration) :=
  if id.name = "" then [] else [(.patchFinalizers id patch, none)]

theorem run_patchFinalizers (id : ObjectId) (patch : FinalizerPatch) (past : List Event) :
    (run reply past (patchFinalizers id patch)).1 = past ++ requests (patchRequests id patch) := by
  unfold patchFinalizers patchRequests
  rw [run_bind]
  by_cases hname : id.name = ""
  · have htarget : (Request.patchFinalizers id patch).target.name = "" := hname
    rw [Program.run_send_of_unnamed _ htarget, if_pos hname]
    simp [run_pure, requests]
  · have htarget : (Request.patchFinalizers id patch).target.name ≠ "" := hname
    rw [Program.run_send_of_named _ htarget, if_neg hname]
    split
    · rfl
    · rfl
    · rfl

theorem run_finalize_of_error {name : String} {index : Nat} {error : BackendError}
    (hname : model.metadata.name = some name)
    (h : (run reply past (removeRoutes registry model)).2 = .error error) :
    run reply past (finalize registry ns model index) =
      ((run reply past (removeRoutes registry model)).1 ++
        [.noted (.cleanedUp model.backendKind false)],
        .error (.cleanup model.backendKind error)) := by
  unfold finalize
  rw [hname]
  dsimp only
  rw [run_bind, run_cleanup_of_error h]
  rfl

/-- The finalizer is removed last. -/
theorem run_finalize_of_ok {name : String} {index : Nat} {removal : Removal}
    (hname : model.metadata.name = some name)
    (h : (run reply past (removeRoutes registry model)).2 = .ok removal) :
    (run reply past (finalize registry ns model index)).1 =
      (run reply past (removeRoutes registry model)).1 ++
        .noted (.cleanedUp model.backendKind true) :: .noted (.settled model.id) ::
          requests (patchRequests ⟨ns, name⟩ (.remove index)) := by
  unfold finalize
  rw [hname]
  dsimp only
  rw [run_bind, run_cleanup_of_ok h]
  dsimp only
  rw [run_bind, run_patchFinalizers]
  split
  · rw [run_pure]
    simp
  · rw [run_pure]
    simp

theorem run_finalize_of_unnamed {index : Nat} (hname : model.metadata.name = none) :
    run reply past (finalize registry ns model index) = (past, .error .unnamed) := by
  unfold finalize
  rw [hname]
  rfl

/-! ## A model without the finalizer -/

theorem run_addFinalizer {name : String} (hname : model.metadata.name = some name)
    (past : List Event) :
    (run reply past (addFinalizer ns model)).1 =
      past ++ requests (patchRequests ⟨ns, name⟩ (additionTo model.metadata.finalizerList)) := by
  unfold addFinalizer
  rw [hname]
  dsimp only
  rw [run_bind, run_patchFinalizers]
  split
  · rfl
  · rfl

theorem run_addFinalizer_of_unnamed (hname : model.metadata.name = none) :
    run reply past (addFinalizer ns model) = (past, .error .unnamed) := by
  unfold addFinalizer
  rw [hname]
  rfl

/-! ## The states of a model -/

/-- The model carries the finalizer of the controller. -/
def Carries (model : Model) : Prop :=
  Model.finalizer ∈ model.metadata.finalizerList

instance (model : Model) : Decidable (Carries model) :=
  inferInstanceAs (Decidable (Model.finalizer ∈ model.metadata.finalizerList))

theorem reconcile_of_cluster_scope (hns : model.metadata.ns = none) :
    reconcile registry limit now model = pure (.ok .awaitChange) := by
  unfold reconcile
  rw [hns]

theorem reconcile_of_served (hns : model.metadata.ns = some ns) (hcarries : Carries model)
    (hdeleting : model.metadata.isDeleting = false) :
    reconcile registry limit now model = apply registry limit now ns model := by
  unfold reconcile
  rw [hns, hdeleting]
  dsimp only
  cases hindex : model.metadata.finalizerList.idxOf? Model.finalizer with
  | none => exact absurd hcarries (List.idxOf?_eq_none_iff.1 hindex)
  | some index => rfl

theorem reconcile_of_deleted (registry : Registry) (limit : Duration) (now : String)
    (hns : model.metadata.ns = some ns) (hcarries : Carries model)
    (hdeleting : model.metadata.isDeleting = true) :
    ∃ index, model.metadata.finalizerList.idxOf? Model.finalizer = some index ∧
      reconcile registry limit now model = finalize registry ns model index := by
  unfold reconcile
  rw [hns, hdeleting]
  dsimp only
  cases hindex : model.metadata.finalizerList.idxOf? Model.finalizer with
  | none => exact absurd hcarries (List.idxOf?_eq_none_iff.1 hindex)
  | some index => exact ⟨index, rfl, rfl⟩

theorem reconcile_of_new (hns : model.metadata.ns = some ns) (hcarries : ¬ Carries model)
    (hdeleting : model.metadata.isDeleting = false) :
    reconcile registry limit now model = addFinalizer ns model := by
  unfold reconcile
  rw [hns, hdeleting, List.idxOf?_eq_none_iff.2 hcarries]

theorem reconcile_of_finalized (hns : model.metadata.ns = some ns) (hcarries : ¬ Carries model)
    (hdeleting : model.metadata.isDeleting = true) :
    reconcile registry limit now model = pure (.ok .awaitChange) := by
  unfold reconcile
  rw [hns, hdeleting, List.idxOf?_eq_none_iff.2 hcarries]

/-- The ways through a pass, with what they leave behind. -/
inductive PassTrace (reply : Replies) (registry : Registry) (limit : Duration) (now : String)
    (model : Model) : List Event → Prop
  /-- There is nothing to do, or the model lacks the name that is needed for it. -/
  | idle : PassTrace reply registry limit now model []
  | served {ns : String} (hns : model.metadata.ns = some ns) (hcarries : Carries model)
      (hdeleting : model.metadata.isDeleting = false) :
      PassTrace reply registry limit now model (run reply [] (apply registry limit now ns model)).1
  | added {ns name : String} (hns : model.metadata.ns = some ns)
      (hname : model.metadata.name = some name) (hcarries : ¬ Carries model)
      (hdeleting : model.metadata.isDeleting = false) :
      PassTrace reply registry limit now model
        (requests (patchRequests ⟨ns, name⟩ (additionTo model.metadata.finalizerList)))
  /-- The routes of a deleted model remain. -/
  | stuck {ns : String} {error : BackendError} (hns : model.metadata.ns = some ns)
      (hcarries : Carries model) (hdeleting : model.metadata.isDeleting = true)
      (hremoval : (run reply [] (removeRoutes registry model)).2 = .error error) :
      PassTrace reply registry limit now model ((run reply [] (removeRoutes registry model)).1 ++
        [.noted (.cleanedUp model.backendKind false)])
  | removed {ns name : String} {index : Nat} {removal : Removal}
      (hns : model.metadata.ns = some ns) (hname : model.metadata.name = some name)
      (hcarries : Carries model) (hdeleting : model.metadata.isDeleting = true)
      (hremoval : (run reply [] (removeRoutes registry model)).2 = .ok removal) :
      PassTrace reply registry limit now model ((run reply [] (removeRoutes registry model)).1 ++
        .noted (.cleanedUp model.backendKind true) :: .noted (.settled model.id) ::
          requests (patchRequests ⟨ns, name⟩ (.remove index)))

theorem passTrace_reconcile (reply : Replies) (registry : Registry) (limit : Duration)
    (now : String) (model : Model) :
    PassTrace reply registry limit now model
      (run reply [] (reconcile registry limit now model)).1 := by
  cases hns : model.metadata.ns with
  | none =>
      rw [reconcile_of_cluster_scope hns]
      exact .idle
  | some ns =>
      by_cases hcarries : Carries model
      · cases hdeleting : model.metadata.isDeleting with
        | false =>
            rw [reconcile_of_served hns hcarries hdeleting]
            exact .served hns hcarries hdeleting
        | true =>
            obtain ⟨index, -, hreconcile⟩ :=
              reconcile_of_deleted registry limit now hns hcarries hdeleting
            rw [hreconcile]
            cases hname : model.metadata.name with
            | none =>
                rw [run_finalize_of_unnamed hname]
                exact .idle
            | some name =>
                cases hremoval : (run reply [] (removeRoutes registry model)).2 with
                | error error =>
                    rw [run_finalize_of_error hname hremoval]
                    exact .stuck hns hcarries hdeleting hremoval
                | ok removal =>
                    rw [run_finalize_of_ok hname hremoval]
                    exact .removed hns hname hcarries hdeleting hremoval
      · cases hdeleting : model.metadata.isDeleting with
        | false =>
            rw [reconcile_of_new hns hcarries hdeleting]
            cases hname : model.metadata.name with
            | none =>
                rw [run_addFinalizer_of_unnamed hname]
                exact .idle
            | some name =>
                rw [run_addFinalizer hname]
                exact .added hns hname hcarries hdeleting
        | true =>
            rw [reconcile_of_finalized hns hcarries hdeleting]
            exact .idle

end Pass

end ModelGate

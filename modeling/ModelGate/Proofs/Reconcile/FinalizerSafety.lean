import ModelGate.Proofs.Reconcile.Trace
import ModelGate.Proofs.Simulation.OtherFinalizers

/-!
# The finalizer is removed last

`FinalizerSafe` collects what must hold of the trace of one pass, whatever the registry, the
backends and the replies are, and `reconcile_isFinalizerSafe` proves it.

Backends send requests of their own during their calls.  A call lasts from its note to the next
note, and `ownRequests` are the requests of the controller outside of all calls.
-/

namespace ModelGate.Pass

open Program (Event Replies requests run run_pure)

variable {reply : Replies} {registry : Registry} {limit : Duration} {now ns name : String}
  {model : Model}

/-- The requests of a trace outside the calls of backends. -/
def ownRequests : Bool → List Event → List Request
  | _, [] => []
  | _, .noted (.called _) :: rest => ownRequests true rest
  | _, .noted _ :: rest => ownRequests false rest
  | true, .sent _ _ :: rest => ownRequests true rest
  | false, .sent request _ :: rest => request :: ownRequests false rest

/-! ## The calls of backends -/

theorem ownRequests_call (sent : List (Request × Option Duration)) (rest : List Event) :
    ownRequests true (requests sent ++ rest) = ownRequests true rest := by
  induction sent with
  | nil => rfl
  | cons s sent ih => exact ih

theorem ownRequests_calls {answers : BackendAnswers} {calls : List Event}
    (h : Evaluation.CallTrace answers calls) (kind : String) (phase : Option Phase)
    (rest : List Event) :
    ownRequests false (calls ++ .noted (.reconciled kind phase) :: rest) =
      ownRequests false rest := by
  cases h with
  | unregistered => rfl
  | routeFailed error sent => exact ownRequests_call sent _
  | statusFailed route error sent sent' =>
      rw [List.append_assoc]
      exact (ownRequests_call sent _).trans (ownRequests_call sent' _)
  | observed route found sent sent' =>
      rw [List.append_assoc]
      exact (ownRequests_call sent _).trans (ownRequests_call sent' _)

theorem RemovalTrace.ownRequests_append {calls : List Event} (h : RemovalTrace registry model calls)
    (kind : String) (ok : Bool) (rest : List Event) :
    ownRequests false (calls ++ .noted (.cleanedUp kind ok) :: rest) = ownRequests false rest := by
  cases h with
  | uncalled => rfl
  | called howns sent => exact ownRequests_call sent _

theorem RemovalTrace.called_mem {calls : List Event} (h : RemovalTrace registry model calls)
    {call : BackendCall} (hcall : .noted (.called call) ∈ calls) :
    call = .cleanup ∧ OwnsRoutes registry model := by
  cases h with
  | uncalled => cases hcall
  | called howns sent =>
      rcases List.mem_cons.1 hcall with hhead | hsent
      · cases hhead
        exact ⟨rfl, howns⟩
      · exact absurd hsent (Program.noted_notMem_requests (.called call) sent)

/-! ## The four states of a model -/

/-- The trace of one pass. -/
def trace (reply : Replies) (registry : Registry) (limit : Duration) (now : String)
    (model : Model) : List Event :=
  (run reply [] (reconcile registry limit now model)).1

/-- The pass over a served model calls no cleanup. -/
theorem ne_cleanup_of_called_mem_apply {call : BackendCall}
    (hcall : .noted (.called call) ∈ (run reply [] (apply registry limit now ns model)).1) :
    call ≠ .cleanup := by
  rintro rfl
  obtain ⟨calls, store, ending, hcalls, hstore, hending, hrun⟩ :=
    run_apply reply registry limit now ns model []
  have hcleanup : .noted (.called .cleanup) ∉ calls := by
    intro hmem
    rcases hcalls.note_eq hmem with hnote | hnote <;> cases hnote
  rw [hrun] at hcall
  generalize (run reply [] (apply registry limit now ns model)).2 = result at hending
  cases hstore <;> cases hending <;> simp [hcleanup] at hcall

/-- All that the controller itself sends in it is a status. -/
theorem eq_applyStatus_of_mem_ownRequests_apply {r : Request}
    (hr : r ∈ ownRequests false (run reply [] (apply registry limit now ns model)).1) :
    ∃ id status, r = .applyStatus id status := by
  obtain ⟨calls, store, ending, hcalls, hstore, hending, hrun⟩ :=
    run_apply reply registry limit now ns model []
  rw [hrun, List.nil_append, ownRequests_calls hcalls] at hr
  generalize (run reply [] (apply registry limit now ns model)).2 = result at hending
  cases hstore <;> cases hending <;> simp [ownRequests] at hr <;> exact ⟨_, _, hr⟩

/-- The pass over a deleted model whose routes remain sends nothing of its own. -/
theorem trace_of_failed_removal (limit : Duration) (now : String)
    (hns : model.metadata.ns = some ns)
    (hname : model.metadata.name = some name) (hcarries : Carries model)
    (hdeleting : model.metadata.isDeleting = true) {error : BackendError}
    (h : (run reply [] (removeRoutes registry model)).2 = .error error) :
    (run reply [] (reconcile registry limit now model)).2 =
        .error (.cleanup model.backendKind error) ∧
      trace reply registry limit now model =
        (run reply [] (removeRoutes registry model)).1 ++
          [.noted (.cleanedUp model.backendKind false)] := by
  obtain ⟨index, -, hreconcile⟩ := reconcile_of_deleted registry limit now hns hcarries hdeleting
  unfold trace
  rw [hreconcile, run_finalize_of_error hname h]
  exact ⟨rfl, rfl⟩

/-- The pass over a deleted model whose routes are gone removes the finalizer at the end. -/
theorem trace_of_removal (limit : Duration) (now : String) (hns : model.metadata.ns = some ns)
    (hname : model.metadata.name = some name) (hne : name ≠ "") (hcarries : Carries model)
    (hdeleting : model.metadata.isDeleting = true) {removal : Removal}
    (h : (run reply [] (removeRoutes registry model)).2 = .ok removal) :
    ∃ index, model.metadata.finalizerList.idxOf? Model.finalizer = some index ∧
      trace reply registry limit now model =
        (run reply [] (removeRoutes registry model)).1 ++
          [.noted (.cleanedUp model.backendKind true), .noted (.settled model.id),
            .sent (.patchFinalizers ⟨ns, name⟩ (.remove index)) none] := by
  obtain ⟨index, hindex, hreconcile⟩ :=
    reconcile_of_deleted registry limit now hns hcarries hdeleting
  refine ⟨index, hindex, ?_⟩
  unfold trace
  rw [hreconcile, run_finalize_of_ok hname h, patchRequests, if_neg hne]
  rfl

/-! ## What a pass may do -/

theorem additionTo_ne_remove (finalizers : List String) (index : Nat) :
    additionTo finalizers ≠ .remove index := by
  unfold additionTo
  split <;> simp

/-- A backend is only called for a model that carries the finalizer: for its cleanup once the model
is being deleted, if the routes belong to the controller, and for all else before. -/
theorem called_mem_trace {call : BackendCall}
    (hcall : .noted (.called call) ∈ trace reply registry limit now model) :
    Carries model ∧
      ((model.metadata.isDeleting = false ∧ call ≠ .cleanup) ∨
        (model.metadata.isDeleting = true ∧ call = .cleanup ∧ OwnsRoutes registry model)) := by
  obtain ⟨calls, hcalls, hrun⟩ := run_removeRoutes reply registry model []
  have htrace := passTrace_reconcile reply registry limit now model
  unfold trace at hcall
  generalize (run reply [] (reconcile registry limit now model)).1 = events at htrace hcall
  cases htrace with
  | idle => cases hcall
  | served hns hcarries hdeleting =>
      exact ⟨hcarries, Or.inl ⟨hdeleting, ne_cleanup_of_called_mem_apply hcall⟩⟩
  | added hns hname hcarries hdeleting => simp at hcall
  | stuck hns hcarries hdeleting hremoval =>
      rw [hrun] at hcall
      exact ⟨hcarries, Or.inr ⟨hdeleting, hcalls.called_mem (by simpa using hcall)⟩⟩
  | removed hns hname hcarries hdeleting hremoval =>
      rw [hrun] at hcall
      exact ⟨hcarries, Or.inr ⟨hdeleting, hcalls.called_mem (by simpa using hcall)⟩⟩

theorem mem_ownRequests_patchRequests {id : ObjectId} {patch : FinalizerPatch} {r : Request}
    (hr : r ∈ ownRequests false (requests (patchRequests id patch))) :
    r = .patchFinalizers id patch := by
  unfold patchRequests at hr
  split at hr
  · cases hr
  · simpa [requests, ownRequests] using hr

/-- What the controller itself sends: the status of a served model, the removal of the finalizer
once the routes are gone, or the addition of the finalizer to a new model. -/
theorem mem_ownRequests_trace {r : Request}
    (hr : r ∈ ownRequests false (trace reply registry limit now model)) :
    (Carries model ∧ model.metadata.isDeleting = false ∧ ∃ id status, r = .applyStatus id status) ∨
      (Carries model ∧ model.metadata.isDeleting = true ∧
        (∃ removal, (run reply [] (removeRoutes registry model)).2 = .ok removal) ∧
        ∃ id index, r = .patchFinalizers id (.remove index)) ∨
      (¬ Carries model ∧ model.metadata.isDeleting = false ∧
        ∃ id, r = .patchFinalizers id (additionTo model.metadata.finalizerList)) := by
  obtain ⟨calls, hcalls, hrun⟩ := run_removeRoutes reply registry model []
  have htrace := passTrace_reconcile reply registry limit now model
  unfold trace at hr
  generalize (run reply [] (reconcile registry limit now model)).1 = events at htrace hr
  cases htrace with
  | idle => cases hr
  | served hns hcarries hdeleting =>
      exact Or.inl ⟨hcarries, hdeleting, eq_applyStatus_of_mem_ownRequests_apply hr⟩
  | added hns hname hcarries hdeleting =>
      exact Or.inr (Or.inr ⟨hcarries, hdeleting, _, mem_ownRequests_patchRequests hr⟩)
  | stuck hns hcarries hdeleting hremoval =>
      -- The routes remain, so nothing is sent outside of the cleanup.
      rw [hrun, List.nil_append, hcalls.ownRequests_append] at hr
      cases hr
  | removed hns hname hcarries hdeleting hremoval =>
      rw [hrun, List.nil_append, hcalls.ownRequests_append] at hr
      exact Or.inr (Or.inl ⟨hcarries, hdeleting, ⟨_, hremoval⟩, _, _,
        mem_ownRequests_patchRequests hr⟩)

/-- What one pass over a model with a namespace and a name must respect. -/
structure FinalizerSafe (reply : Replies) (registry : Registry) (limit : Duration) (now : String)
    (model : Model) (id : ObjectId) : Prop where
  /-- The route and the status are only asked for while the model is served. -/
  called_served : ∀ call, .noted (.called call) ∈ trace reply registry limit now model →
    call ≠ .cleanup → Carries model ∧ model.metadata.isDeleting = false
  stored_served : ∀ id status,
    .applyStatus id status ∈ ownRequests false (trace reply registry limit now model) →
    Carries model ∧ model.metadata.isDeleting = false
  cleanup_called : .noted (.called .cleanup) ∈ trace reply registry limit now model →
    model.metadata.isDeleting = true ∧ Carries model ∧ OwnsRoutes registry model
  /-- The finalizer is removed if and only if the removal of the routes succeeded. -/
  removed_iff :
    (∃ id index, .patchFinalizers id (.remove index) ∈
        ownRequests false (trace reply registry limit now model)) ↔
      model.metadata.isDeleting = true ∧ Carries model ∧
        ∃ removal, (run reply [] (removeRoutes registry model)).2 = .ok removal
  /-- The request that removes it comes behind all that the removal of the routes did. -/
  removed_last : model.metadata.isDeleting = true → Carries model →
    ∀ removal, (run reply [] (removeRoutes registry model)).2 = .ok removal →
    ∃ (index : Nat) (notes : List Note),
      model.metadata.finalizerList.idxOf? Model.finalizer = some index ∧
      trace reply registry limit now model =
        (run reply [] (removeRoutes registry model)).1 ++ notes.map Event.noted ++
          [.sent (.patchFinalizers id (.remove index)) none]
  /-- A failed removal of the routes fails the pass, and nothing is changed. -/
  removal_failed : model.metadata.isDeleting = true → Carries model →
    ∀ error, (run reply [] (removeRoutes registry model)).2 = .error error →
    (run reply [] (reconcile registry limit now model)).2 =
        .error (.cleanup model.backendKind error) ∧
      ownRequests false (trace reply registry limit now model) = []
  /-- No request of the pass changes the finalizers of others. -/
  others_kept : ∀ r wait, .sent r wait ∈ trace reply registry limit now model →
    ∀ (cluster : Cluster) (time : String) (other : ObjectId),
      (cluster.answer time r).2.otherFinalizers other = cluster.otherFinalizers other

/-- Every pass over a model with a namespace and a name is safe, whatever the backends do and
whatever is replied. -/
theorem reconcile_isFinalizerSafe (reply : Replies) (registry : Registry) (limit : Duration)
    (now : String) {ns name : String} {model : Model} (hns : model.metadata.ns = some ns)
    (hname : model.metadata.name = some name) (hne : name ≠ "") :
    FinalizerSafe reply registry limit now model ⟨ns, name⟩ where
  called_served := by
    intro call hcall hother
    obtain ⟨hcarries, ⟨hdeleting, -⟩ | ⟨-, hcleanup, -⟩⟩ := called_mem_trace hcall
    · exact ⟨hcarries, hdeleting⟩
    · exact absurd hcleanup hother
  stored_served := by
    intro id status hstored
    rcases mem_ownRequests_trace hstored with
      ⟨hcarries, hdeleting, -⟩ | ⟨-, -, -, other, index, hremove⟩ | ⟨-, -, other, hadd⟩
    · exact ⟨hcarries, hdeleting⟩
    · cases hremove
    · cases hadd
  cleanup_called := by
    intro hcall
    obtain ⟨hcarries, ⟨-, hother⟩ | ⟨hdeleting, -, howns⟩⟩ := called_mem_trace hcall
    · exact absurd rfl hother
    · exact ⟨hdeleting, hcarries, howns⟩
  removed_iff := by
    constructor
    · rintro ⟨id, index, hremove⟩
      rcases mem_ownRequests_trace hremove with
        ⟨-, -, id, status, hstored⟩ | ⟨hcarries, hdeleting, hremoval, -⟩ | ⟨-, -, other, hadd⟩
      · cases hstored
      · exact ⟨hdeleting, hcarries, hremoval⟩
      · exact absurd (Request.patchFinalizers.inj hadd).2.symm (additionTo_ne_remove _ index)
    · rintro ⟨hdeleting, hcarries, removal, hremoval⟩
      obtain ⟨index, -, htrace⟩ := trace_of_removal limit now hns hname hne hcarries hdeleting hremoval
      obtain ⟨calls, hcalls, hrun⟩ := run_removeRoutes reply registry model []
      refine ⟨⟨ns, name⟩, index, ?_⟩
      rw [htrace, hrun, List.nil_append, hcalls.ownRequests_append]
      simp [ownRequests]
  removed_last := by
    intro hdeleting hcarries removal hremoval
    obtain ⟨index, hindex, htrace⟩ := trace_of_removal limit now hns hname hne hcarries hdeleting hremoval
    refine ⟨index, [.cleanedUp model.backendKind true, .settled model.id], hindex, ?_⟩
    rw [htrace]
    simp
  removal_failed := by
    intro hdeleting hcarries error hremoval
    obtain ⟨hresult, htrace⟩ := trace_of_failed_removal limit now hns hname hcarries hdeleting
      hremoval
    obtain ⟨calls, hcalls, hrun⟩ := run_removeRoutes reply registry model []
    refine ⟨hresult, ?_⟩
    rw [htrace, hrun, List.nil_append, hcalls.ownRequests_append]
    rfl
  others_kept := by
    intro r wait _ cluster time other
    exact cluster.otherFinalizers_answer time r other

/-- A model that is being deleted and that another controller also holds on to. -/
def deletedModel : Model :=
  ⟨{ Metadata.blank with
    name := some "opt"
    ns := some "llm"
    finalizers := some ["example.com/backup", "maas.opendatahub.io/model-cleanup"]
    deletionTimestamp := some "2025-01-01T00:00:00Z" }, ⟨"ExternalModel", "opt", none⟩, none⟩

/-- Its route is gone already, so the second finalizer is removed. -/
theorem deletedModel_loses_finalizer :
    ∃ id index, .patchFinalizers id (.remove index) ∈
      ownRequests false (trace (fun _ _ _ => .failed (.refused ⟨"Failure", "", "NotFound", 404⟩))
        (Registry.empty.register "ExternalModel" (ExternalBackend.backend 5)) 5 ""
        deletedModel) := by
  have hsafe := reconcile_isFinalizerSafe
    (fun _ _ _ => .failed (.refused ⟨"Failure", "", "NotFound", 404⟩))
    (Registry.empty.register "ExternalModel" (ExternalBackend.backend 5)) 5 ""
    (rfl : deletedModel.metadata.ns = some "llm") (rfl : deletedModel.metadata.name = some "opt")
    (by decide)
  refine hsafe.removed_iff.2 ⟨rfl, by decide, .deleted, ?_⟩
  cbv

end ModelGate.Pass

import Mathlib
import ModelGate.Proofs.Reconcile.LateReplies
import ModelGate.Proofs.Reconcile.LeastMutation
import ModelGate.Proofs.Simulation.Waits
import ModelGate.Reconcile.Records

/-!
# How long a pass waits

A pass waits for the reply to a read, to the deletion of a route and to the storing of a status no
longer than its limit.  If there is none by then, the pass ends with an error: `LateEnd` lists what
it may still do before that.  The pass over a served model therefore ends in every traffic.

It is different for the changes of finalizers, whose replies are awaited without a limit.  One such
request that hangs blocks the pass over its model for good.
-/

namespace ModelGate

open Program (Asks Event OnTimeout Replies onTimeout_bind onTimeout_leave_bind onTimeout_pure
  run run_bind run_leave run_pure)

namespace Pass

variable {reply : Replies} {past : List Event} {gateway : GatewayRef} {limit : Duration}
  {now ns : String} {model : Model} {r : Request}

/-! ## What is left of a pass -/

/-- What is left of the cleanup of a model once a request had no reply in time. -/
def lateCleanup (limit : Duration) (model : Model) : Program (Except PassError Action) :=
  .note (.cleanedUp model.backendKind false)
    (pure (.error (.cleanup model.backendKind (.timeout limit))))

/-- What is left of a pass over a model once a request had no reply in time. -/
inductive LateRest (limit : Duration) (now : String) (model : Model) :
    Request → Program (Except PassError Action) → Prop
  /-- The evaluation failed, and is recorded as any other. -/
  | evaluation {r : Request} {ns : String} (hns : model.metadata.ns = some ns)
      (hkept : model.metadata.isDeleting = false) (hread : r.isRead = true)
      (route : Option RouteReference) (reason : String) :
      LateRest limit now model r
        (record limit ns model (Evaluation.late limit now model route reason))
  | status (hkept : model.metadata.isDeleting = false) (s : ModelStatus) :
      LateRest limit now model (.applyStatus model.id s) (pure (.error (.status (.timeout limit))))
  | cleanup {r : Request} (hdeleting : model.metadata.isDeleting = true) :
      LateRest limit now model r (lateCleanup limit model)

theorem onTimeout_evaluate :
    (Evaluation.evaluate (registry gateway limit) model now).OnTimeout
      (Evaluation.IsEndedLate limit now model) := by
  unfold Evaluation.evaluate
  rw [get?_registry]
  split_ifs
  · exact Evaluation.onTimeout_withBackend (onTimeout_pure _) fun _ => onTimeout_pure _
  · exact Evaluation.onTimeout_withBackend InferenceBackend.onTimeout_reconcileRoute
      InferenceBackend.onTimeout_status
  · exact onTimeout_pure _

theorem onTimeout_conclude (kind : Request → Program (Except PassError Action) → Prop)
    (outcome : Outcome) : (conclude model outcome).OnTimeout kind := by
  unfold conclude
  split
  · exact onTimeout_pure _
  · exact onTimeout_leave_bind (onTimeout_pure _)

theorem onTimeout_record (hns : model.metadata.ns = some ns)
    (hkept : model.metadata.isDeleting = false) (evaluation : Evaluation) :
    (record limit ns model evaluation).OnTimeout (LateRest limit now model) := by
  refine onTimeout_leave_bind ?_
  split
  · refine onTimeout_bind
      (Program.onTimeout_request (.applyStatus ⟨ns, model.shownName⟩ evaluation.status)) ?_ ?_
    · rintro r rest ⟨rfl, rfl⟩
      rw [← Model.id_of_ns hns]
      exact .status hkept _
    · intro stored
      split
      · exact onTimeout_pure _
      · exact onTimeout_leave_bind (onTimeout_conclude _ _)
  · exact onTimeout_conclude _ _

theorem onTimeout_apply (hns : model.metadata.ns = some ns)
    (hkept : model.metadata.isDeleting = false) :
    (apply (registry gateway limit) limit now ns model).OnTimeout (LateRest limit now model) := by
  refine onTimeout_bind onTimeout_evaluate ?_ (onTimeout_record hns hkept)
  rintro r rest ⟨hread, route, reason⟩
  exact .evaluation hns hkept hread route reason

theorem onTimeout_removeRoutes :
    (removeRoutes (registry gateway limit) model).OnTimeout fun _ rest => IsLate limit rest := by
  unfold removeRoutes
  rw [get?_registry]
  split_ifs
  · refine onTimeout_leave_bind
      (onTimeout_bind ExternalBackend.onTimeout_cleanup (fun r rest h => h.bind rfl) ?_)
    intro removed
    split
    · exact onTimeout_pure _
    · split <;> exact onTimeout_pure _
  · exact onTimeout_pure _
  · exact onTimeout_pure _

theorem onTimeout_cleanup :
    (cleanup (registry gateway limit) model).OnTimeout fun _ rest => rest = lateCleanup limit model := by
  refine onTimeout_bind onTimeout_removeRoutes ?_ ?_
  · rintro r rest rfl
    rfl
  · intro removed
    split
    · exact onTimeout_leave_bind (onTimeout_pure _)
    · exact onTimeout_leave_bind (onTimeout_leave_bind (onTimeout_pure _))

/-- Changes of finalizers have no limit that could be missed. -/
theorem onTimeout_patchFinalizers (kind : Request → Program (Except RequestError Unit) → Prop)
    (id : ObjectId) (patch : FinalizerPatch) : (patchFinalizers id patch).OnTimeout kind := by
  unfold patchFinalizers Program.send
  split
  · exact onTimeout_pure _
  · refine ⟨fun hlimit => absurd rfl hlimit, ?_⟩
    intro reply
    cases reply <;> exact onTimeout_pure _

theorem onTimeout_finalize (hdeleting : model.metadata.isDeleting = true) (index : Nat) :
    (finalize (registry gateway limit) ns model index).OnTimeout (LateRest limit now model) := by
  unfold finalize
  split
  · exact onTimeout_pure _
  · refine onTimeout_bind onTimeout_cleanup ?_ ?_
    · rintro r rest rfl
      exact .cleanup hdeleting
    · intro cleaned
      split
      · exact onTimeout_pure _
      · refine onTimeout_bind (onTimeout_patchFinalizers (fun _ _ => False) _ _)
          (fun _ _ h => h.elim) ?_
        intro patched
        split <;> exact onTimeout_pure _

theorem onTimeout_addFinalizer (kind : Request → Program (Except PassError Action) → Prop) :
    (addFinalizer ns model).OnTimeout kind := by
  unfold addFinalizer
  split
  · exact onTimeout_pure _
  · refine onTimeout_bind (onTimeout_patchFinalizers (fun _ _ => False) _ _)
      (fun _ _ h => h.elim) ?_
    intro patched
    split <;> exact onTimeout_pure _

theorem onTimeout_reconcile :
    (reconcile (registry gateway limit) limit now model).OnTimeout (LateRest limit now model) := by
  unfold reconcile
  split
  · exact onTimeout_pure _
  · next ns hns =>
      split
      · next hkept => exact onTimeout_apply hns hkept
      · next hdeleting => exact onTimeout_finalize hdeleting _
      · exact onTimeout_addFinalizer _
      · exact onTimeout_pure _

/-! ## How a pass ends -/

/-- How a pass over a model ends behind a request that had no reply in time: what it still does, and
what it results in. -/
inductive LateEnd (limit : Duration) (now : String) (model : Model) :
    Request → List Event → Except PassError Action → Prop
  /-- The evaluation failed with a status that the model carries already. -/
  | carried {r : Request} (hkept : model.metadata.isDeleting = false) (hread : r.isRead = true)
      (route : Option RouteReference) (reason : String)
      (h : model.status = some (Evaluation.late limit now model route reason).status) :
      LateEnd limit now model r [.noted (.reconciled model.backendKind (some .failed))]
        (.error (.backend model.backendKind (.timeout limit)))
  /-- It failed with a new status, which is stored. -/
  | stored {r : Request} (hkept : model.metadata.isDeleting = false) (hread : r.isRead = true)
      (route : Option RouteReference) (reason : String) :
      LateEnd limit now model r [.noted (.reconciled model.backendKind (some .failed)),
        .sent (.applyStatus model.id (Evaluation.late limit now model route reason).status)
          (some limit),
        .noted .statusPatched] (.error (.backend model.backendKind (.timeout limit)))
  /-- It failed with a new status, which could not be stored either. -/
  | unstored {r : Request} (hkept : model.metadata.isDeleting = false) (hread : r.isRead = true)
      (route : Option RouteReference) (reason : String) (error : BackendError) :
      LateEnd limit now model r [.noted (.reconciled model.backendKind (some .failed)),
        .sent (.applyStatus model.id (Evaluation.late limit now model route reason).status)
          (some limit)] (.error (.status error))
  /-- It failed with a new status, for a model without the name that is needed to store it. -/
  | unnamed {r : Request} (hkept : model.metadata.isDeleting = false) (hread : r.isRead = true)
      (hname : model.shownName = "") :
      LateEnd limit now model r [.noted (.reconciled model.backendKind (some .failed))]
        (.error (.status (.request .unnamed)))
  | status (hkept : model.metadata.isDeleting = false) (s : ModelStatus) :
      LateEnd limit now model (.applyStatus model.id s) [] (.error (.status (.timeout limit)))
  | cleanup {r : Request} (hdeleting : model.metadata.isDeleting = true) :
      LateEnd limit now model r [.noted (.cleanedUp model.backendKind false)]
        (.error (.cleanup model.backendKind (.timeout limit)))

theorem lateEnd_record (reply : Replies) (past : List Event) (hns : model.metadata.ns = some ns)
    (hkept : model.metadata.isDeleting = false) (hread : r.isRead = true)
    (route : Option RouteReference) (reason : String) :
    ∃ after,
      LateEnd limit now model r after
        (run reply past (record limit ns model (Evaluation.late limit now model route reason))).2 ∧
      (run reply past (record limit ns model (Evaluation.late limit now model route reason))).1 =
        past ++ after := by
  have hid : model.id = ⟨ns, model.shownName⟩ := Model.id_of_ns hns
  unfold record
  rw [run_bind, run_leave, Evaluation.phase_late]
  dsimp only
  by_cases hpatch :
      Evaluation.needsPatch model (Evaluation.late limit now model route reason).status = true
  · rw [if_pos hpatch, run_bind]
    unfold storeStatus
    rw [← hid]
    have htarget : (Request.applyStatus model.id
        (Evaluation.late limit now model route reason).status).target.name = model.shownName := by
      rw [hid]
      rfl
    by_cases hname : model.shownName = ""
    · rw [Program.run_request_of_unnamed limit (htarget.trans hname)]
      exact ⟨_, .unnamed hkept hread hname, rfl⟩
    · rw [Program.run_request_of_named limit fun h => hname (htarget.symm.trans h)]
      generalize (reply (past ++ [.noted _]) _ _).result limit = stored
      cases stored with
      | error error =>
          exact ⟨_, .unstored hkept hread route reason error, List.append_assoc _ _ _⟩
      | ok answer =>
          refine ⟨_, .stored hkept hread route reason, ?_⟩
          change past ++ [_] ++ [_] ++ [_] = past ++ [_, _, _]
          simp only [List.append_assoc, List.cons_append, List.nil_append]
  · rw [if_neg hpatch]
    rw [Evaluation.needsPatch_iff, not_not] at hpatch
    exact ⟨_, .carried hkept hread route reason hpatch, rfl⟩

/-- The rest of a pass behind a late reply ends in one of these ways. -/
theorem LateRest.exists_lateEnd {rest : Program (Except PassError Action)}
    (h : LateRest limit now model r rest) (reply : Replies) (past : List Event) :
    ∃ after, LateEnd limit now model r after (run reply past rest).2 ∧
      (run reply past rest).1 = past ++ after := by
  cases h with
  | evaluation hns hkept hread route reason =>
      exact lateEnd_record reply past hns hkept hread route reason
  | status hkept s => exact ⟨[], .status hkept s, (List.append_nil past).symm⟩
  | cleanup hdeleting => exact ⟨_, .cleanup hdeleting, rfl⟩

theorem lateEnd_of_timedOut {before after : List Event}
    (htrace : trace reply (registry gateway limit) limit now model =
      before ++ .sent r (some limit) :: after)
    (hreply : reply before r (some limit) = .timedOut) :
    LateEnd limit now model r after
      (run reply [] (reconcile (registry gateway limit) limit now model)).2 := by
  obtain ⟨rest, hrest, hrun⟩ := Program.run_eq_of_timedOut onTimeout_reconcile htrace hreply
  obtain ⟨behind, hend, hbehind⟩ :=
    hrest.exists_lateEnd reply ([] ++ before ++ [.sent r (some limit)])
  -- The trace behind the late request is that of the rest, so the rest ends the pass.
  have hafter : behind = after := by
    unfold trace at htrace
    rw [hrun, hbehind] at htrace
    simpa using htrace
  rw [hrun, ← hafter]
  exact hend

/-! ## Passes in traffic -/

theorem exists_arrival_of_sent {wait : Option Duration}
    (hsent : .sent r wait ∈ trace reply (registry gateway limit) limit now model)
    (hother : ∀ patch, r ≠ .patchFinalizers model.id patch) (t : Traffic) :
    ∃ time, (t.depart r wait).1.arrival = some time ∧ time ≤ t.clock + limit := by
  have hrequest := passRequest_of_sent hsent
  cases hrequest with
  | read hread => exact t.exists_arrival_le r limit
  | status s => exact t.exists_arrival_le _ limit
  | deletion id uid => exact t.exists_arrival_le _ limit
  | finalizers patch => exact absurd rfl (hother patch)

theorem wait_of_patchFinalizers {id : ObjectId} {patch : FinalizerPatch} {wait : Option Duration}
    (hsent : .sent (.patchFinalizers id patch) wait ∈
      trace reply (registry gateway limit) limit now model) : wait = none := by
  have hrequest := passRequest_of_sent hsent
  generalize hr : Request.patchFinalizers id patch = r at hrequest
  cases hrequest with
  | read hread =>
      subst hr
      cases hread
  | status s => cases hr
  | deletion id uid => cases hr
  | finalizers patch => rfl

/-- The pass over a served model ends in every traffic. -/
theorem exists_run_of_served (hns : model.metadata.ns = some ns) (hcarries : Carries model)
    (hkept : model.metadata.isDeleting = false) (t : Traffic) (notes : List Note) :
    ∃ result notes' t',
      t.run notes (reconcile (registry gateway limit) limit now model) =
        (some result, notes', t') ∧ Traffic.Within limit t t' := by
  rw [reconcile_of_served hns hcarries hkept]
  refine Traffic.exists_run_of_asks (asks_apply.mono ?_) t notes
  rintro r wait (⟨-, hwait⟩ | ⟨hwait, -⟩)
  · exact hwait
  · exact hwait

/-- The change that gives a new model its finalizer. -/
abbrev addition (model : Model) : Request :=
  .patchFinalizers model.id (additionTo model.metadata.finalizerList)

/-- What the reply to it means for the pass. -/
def additionResult : Reply Unit → Except PassError Action
  | .answered () => .ok .awaitChange
  | .failed error => .error (.addFinalizer error)
  | .timedOut => .error (.addFinalizer .unreadable)

/-- A model that gets its finalizer next, under the name that is needed for it. -/
structure IsNew (model : Model) : Prop where
  ns : ∃ ns, model.metadata.ns = some ns
  name : ∃ name, model.metadata.name = some name ∧ name ≠ ""
  lacks : ¬ Carries model
  kept : model.metadata.isDeleting = false

/-- The pass over a new model is a single request. -/
theorem reconcile_eq_ask (registry : Registry) (limit : Duration) (now : String)
    (h : IsNew model) :
    reconcile registry limit now model =
      .ask (addition model) none fun reply => .done (additionResult reply) := by
  obtain ⟨⟨ns, hns⟩, ⟨name, hname, hnonempty⟩, hlacks, hkept⟩ := h
  have hid : model.id = ⟨ns, name⟩ := Model.id_of_named hns hname
  have hsend : Program.send (addition model) none = .ask (addition model) none .done := by
    have htarget : (addition model).target.name ≠ "" := by
      unfold addition
      rw [hid]
      exact hnonempty
    unfold Program.send
    rw [if_neg htarget]
  rw [reconcile_of_new hns hlacks hkept]
  unfold addFinalizer
  rw [hname]
  dsimp only
  rw [← hid]
  change Program.bind (Program.bind (Program.send (addition model) none) _) _ = _
  rw [hsend]
  refine congrArg (Program.ask (addition model) none) (funext fun reply => ?_)
  cases reply <;> rfl

/-- How long a pass waits for the replies to its requests, and what it does once one is late. -/
structure Waits (reply : Replies) (gateway : GatewayRef) (limit : Duration) (now : String)
    (model : Model) : Prop where
  /-- Whatever becomes of a request that changes no finalizers, the pass knows it in time. -/
  bounded : ∀ r wait, .sent r wait ∈ trace reply (registry gateway limit) limit now model →
    (∀ patch, r ≠ .patchFinalizers model.id patch) → ∀ t : Traffic,
    ∃ time, (t.depart r wait).1.arrival = some time ∧ time ≤ t.clock + limit
  /-- A late reply fails the pass, and the model is retried. -/
  late : ∀ before r after,
    trace reply (registry gateway limit) limit now model =
      before ++ .sent r (some limit) :: after →
    reply before r (some limit) = .timedOut →
    LateEnd limit now model r after
      (run reply [] (reconcile (registry gateway limit) limit now model)).2 ∧
    ∀ records : Records, (records.conclude model
        (run reply [] (reconcile (registry gateway limit) limit now model)).2).1 =
      .requeue (records.backoff.next model.id).1
  /-- So the pass over a served model ends, and takes no longer than its requests may. -/
  served : ∀ ns, model.metadata.ns = some ns → Carries model → model.metadata.isDeleting = false →
    ∀ (t : Traffic) (notes : List Note), ∃ result notes' t',
      t.run notes (reconcile (registry gateway limit) limit now model) =
        (some result, notes', t') ∧ Traffic.Within limit t t'
  /-- The limit does not hold for changes of finalizers: the pass waits as long as it takes, and
  forever for a reply that never comes. -/
  finalizers : ∀ id patch wait,
    .sent (.patchFinalizers id patch) wait ∈
      trace reply (registry gateway limit) limit now model → ∀ t : Traffic,
    (t.depart (.patchFinalizers id patch) wait).1.arrival =
      if (Fault.pick (.patchFinalizers id patch) t.faults).1.hangs then none
      else some (t.clock + (Fault.pick (.patchFinalizers id patch) t.faults).1.delay)
  /-- So the pass over a new model never ends if its request hangs. -/
  blocked : IsNew model → ∀ (t : Traffic) (notes : List Note),
    (Fault.pick (addition model) t.faults).1.hangs = true →
    (t.run notes (reconcile (registry gateway limit) limit now model)).1 = none
  /-- Otherwise it takes as long as the reply does. -/
  delayed : IsNew model → ∀ (t : Traffic) (notes : List Note),
    (Fault.pick (addition model) t.faults).1.hangs = false →
    (t.run notes (reconcile (registry gateway limit) limit now model)).2.2.clock =
      t.clock + (Fault.pick (addition model) t.faults).1.delay

theorem LateEnd.exists_error {events : List Event} {result : Except PassError Action}
    (h : LateEnd limit now model r events result) : ∃ error, result = .error error := by
  cases h <;> exact ⟨_, rfl⟩

/-- All passes wait like this, whatever is replied. -/
theorem waits_of_pass (reply : Replies) (gateway : GatewayRef) (limit : Duration) (now : String)
    (model : Model) : Waits reply gateway limit now model where
  bounded := fun _ _ hsent hother t => exists_arrival_of_sent hsent hother t
  late := by
    intro before r after htrace hreply
    have hend := lateEnd_of_timedOut htrace hreply
    obtain ⟨error, herror⟩ := hend.exists_error
    refine ⟨hend, fun records => ?_⟩
    rw [herror]
    rfl
  served := fun _ hns hcarries hkept t notes => exists_run_of_served hns hcarries hkept t notes
  finalizers := by
    intro id patch wait hsent t
    rw [wait_of_patchFinalizers hsent]
    exact t.arrival_of_unlimited _
  blocked := by
    intro hnew t notes hhangs
    rw [reconcile_eq_ask _ _ _ hnew]
    refine Traffic.run_ask_of_lost ?_
    rw [t.arrival_of_unlimited, if_pos hhangs]
  delayed := by
    intro hnew t notes hhangs
    have harrival : (t.depart (addition model) none).1.arrival =
        some (t.clock + (Fault.pick (addition model) t.faults).1.delay) := by
      rw [t.arrival_of_unlimited, if_neg (by simp [hhangs])]
    rw [reconcile_eq_ask _ _ _ hnew, Traffic.run_ask_of_arrival harrival]
    exact Traffic.clock_arrive _ _ _

end Pass

end ModelGate

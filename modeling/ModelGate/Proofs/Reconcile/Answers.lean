import Mathlib
import ModelGate.Proofs.Reconcile.ProgramRun
import ModelGate.Reconcile.Evaluation

/-!
# Evaluations as functions of the backend's answers

An evaluation makes at most two calls of a backend: for the route, and if there is one for the
status.  `BackendAnswers` are the results of these calls, and `BackendAnswers.verdict` is the table
of what they mean.  By `run_evaluate_eq` the result of an evaluation depends on nothing else than
the answers, the model and the time, and its trace holds nothing but the calls.
-/

namespace ModelGate

open Program (Event Replies requests run run_bind run_pure run_leave run_of_isSilent)

/-- The phase of a model whose evaluation ended in a certain way. -/
def Outcome.phase : Outcome → Phase
  | .ready => .ready
  | .pending => .pending
  | .unsupported => .unsupported
  | .failed _ => .failed

/-- What an evaluation finds out, apart from what the model carried before. -/
structure Verdict where
  outcome : Outcome
  endpoint : Option String
  route : Option RouteReference
  reason : String
  message : String
  deriving DecidableEq, Repr

namespace Verdict

/-- The backend lacks what was asked of it. -/
@[simps]
def unsupported (message : String) : Verdict :=
  ⟨.unsupported, none, none, "Unsupported", message⟩

/-- The backend may be fine later. -/
@[simps]
def pending (route : RouteReference) (message : String) : Verdict :=
  ⟨.pending, none, some route, "BackendNotReady", message⟩

/-- A call failed; the reason names the call. -/
def failed (route : Option RouteReference) (reason : String) (error : BackendError) : Verdict :=
  if error.isNotImplemented then unsupported error.message
  else ⟨.failed error, none, route, reason, error.message⟩

@[simps]
def ready (route : RouteReference) (url : String) : Verdict :=
  ⟨.ready, some url, some route, "Ready", "model is ready"⟩

/-- The status of a model with a verdict, before the ready condition is set. -/
def bareStatus (v : Verdict) (model : Model) : ModelStatus :=
  { Evaluation.base model v.route with phase := some v.outcome.phase, endpoint := v.endpoint }

/-- The evaluation of a model with a verdict. -/
def evaluation (v : Verdict) (model : Model) (now : String) : Evaluation :=
  ⟨Evaluation.setReady (v.bareStatus model) model.metadata.generation
    (decide (v.outcome = .ready)) v.reason v.message now, v.outcome⟩

variable (v : Verdict) (model : Model) (now : String)

@[simp]
theorem outcome_evaluation : (v.evaluation model now).outcome = v.outcome :=
  rfl

@[simp]
theorem phase_evaluation : (v.evaluation model now).status.phase = some v.outcome.phase :=
  rfl

@[simp]
theorem endpoint_evaluation : (v.evaluation model now).status.endpoint = v.endpoint :=
  rfl

end Verdict

/-- What a backend answered to the calls of an evaluation. -/
inductive BackendAnswers where
  /-- The kind has no backend, so nothing was called. -/
  | unregistered
  /-- There is no route, so the status was not asked for. -/
  | routeFailed (error : BackendError)
  | statusFailed (route : RouteReference) (error : BackendError)
  | observed (route : RouteReference) (found : ModelEndpoint)
  deriving DecidableEq, Repr

namespace BackendAnswers

/-- The result of the call for the route, if it was made. -/
def route? : BackendAnswers → Option (Except BackendError RouteReference)
  | unregistered => none
  | routeFailed error => some (.error error)
  | statusFailed route _ | observed route _ => some (.ok route)

/-- The result of the call for the status, if it was made. -/
def status? : BackendAnswers → Option (Except BackendError ModelEndpoint)
  | unregistered | routeFailed _ => none
  | statusFailed _ error => some (.error error)
  | observed _ found => some (.ok found)

/-- What the answers mean for a model whose backend is of the given kind. -/
def verdict (kind : String) : BackendAnswers → Verdict
  | unregistered => .unsupported ("backend kind " ++ Text.quoted kind ++ " is not supported")
  | routeFailed error => .failed none "ReconcileFailed" error
  | statusFailed route error => .failed (some route) "StatusFailed" error
  | observed route ⟨some url, true⟩ => .ready route url
  | observed route ⟨none, true⟩ => .pending route "backend is ready but no endpoint is known"
  | observed route ⟨_, false⟩ => .pending route "backend is not ready"

end BackendAnswers

namespace Evaluation

variable {reply : Replies} {registry : Registry} {model : Model} {now : String} {past : List Event}

/-- What the backend of a model answers to the calls of an evaluation. -/
def answers (reply : Replies) (registry : Registry) (model : Model) (past : List Event) :
    BackendAnswers :=
  match registry.get? model.backendKind with
  | none => .unregistered
  | some backend =>
    let routed := run reply (past ++ [.noted (.called .route)]) (backend.reconcileRoute model)
    match routed.2 with
    | .error error => .routeFailed error
    | .ok route =>
      match (run reply (routed.1 ++ [.noted (.called .status)]) (backend.status model route)).2 with
      | .error error => .statusFailed route error
      | .ok found => .observed route found

theorem answers_of_routeFailed {backend : Backend} {error : BackendError}
    (hget : registry.get? model.backendKind = some backend)
    (hroute : (run reply (past ++ [.noted (.called .route)]) (backend.reconcileRoute model)).2 =
      .error error) :
    answers reply registry model past = .routeFailed error := by
  unfold answers
  rw [hget]
  dsimp only
  rw [hroute]

theorem answers_of_observed {backend : Backend} {route : RouteReference} {found : ModelEndpoint}
    (hget : registry.get? model.backendKind = some backend)
    (hroute : (run reply (past ++ [.noted (.called .route)]) (backend.reconcileRoute model)).2 =
      .ok route)
    (hstatus : ∀ past, (run reply past (backend.status model route)).2 = .ok found) :
    answers reply registry model past = .observed route found := by
  unfold answers
  rw [hget]
  dsimp only
  rw [hroute]
  dsimp only
  rw [hstatus]

/-! ## The three ways to end an evaluation -/

theorem unsupported_eq (model : Model) (message now : String) :
    unsupported model message now = (Verdict.unsupported message).evaluation model now :=
  rfl

theorem failed_eq (model : Model) (route : Option RouteReference) (reason : String)
    (error : BackendError) (now : String) :
    failed model route reason error now =
      (Verdict.failed route reason error).evaluation model now := by
  unfold failed Verdict.failed
  by_cases h : error.isNotImplemented = true
  · rw [if_pos h, if_pos h, unsupported_eq]
  · rw [if_neg h, if_neg h]
    cases route <;> rfl

theorem observed_eq (model : Model) (route : RouteReference) (found : ModelEndpoint)
    (now : String) :
    observed model route found now =
      ((BackendAnswers.observed route found).verdict model.backendKind).evaluation model now := by
  obtain ⟨endpoint, ready⟩ := found
  cases ready with
  | false => cases endpoint <;> rfl
  | true => cases endpoint <;> rfl

/-! ## Runs -/

theorem evaluate_of_unregistered (h : registry.get? model.backendKind = none) :
    evaluate registry model now = pure (unsupported model
      ("backend kind " ++ Text.quoted model.backendKind ++ " is not supported") now) := by
  unfold evaluate
  rw [h]

theorem evaluate_of_registered {backend : Backend}
    (h : registry.get? model.backendKind = some backend) :
    evaluate registry model now = withBackend backend model now := by
  unfold evaluate
  rw [h]

/-- What the calls of an evaluation leave behind, by how they were answered. -/
inductive CallTrace : BackendAnswers → List Event → Prop
  | unregistered : CallTrace .unregistered []
  | routeFailed (error : BackendError) (sent : List (Request × Option Duration)) :
      CallTrace (.routeFailed error) (.noted (.called .route) :: requests sent)
  | statusFailed (route : RouteReference) (error : BackendError)
      (sent sent' : List (Request × Option Duration)) :
      CallTrace (.statusFailed route error)
        (.noted (.called .route) :: requests sent ++ .noted (.called .status) :: requests sent')
  | observed (route : RouteReference) (found : ModelEndpoint)
      (sent sent' : List (Request × Option Duration)) :
      CallTrace (.observed route found)
        (.noted (.called .route) :: requests sent ++ .noted (.called .status) :: requests sent')

/-- An evaluation leaves nothing behind but its calls, and gives back what their answers mean. -/
theorem run_evaluate_eq (reply : Replies) (registry : Registry) (model : Model) (now : String)
    (past : List Event) :
    ∃ calls, CallTrace (answers reply registry model past) calls ∧
      run reply past (evaluate registry model now) = (past ++ calls,
        ((answers reply registry model past).verdict model.backendKind).evaluation model now) := by
  unfold answers
  cases hget : registry.get? model.backendKind with
  | none =>
      rw [evaluate_of_unregistered hget, run_pure, unsupported_eq]
      exact ⟨[], .unregistered, by rw [List.append_nil]; rfl⟩
  | some backend =>
      rw [evaluate_of_registered hget]
      unfold withBackend
      rw [run_bind, run_leave, run_bind]
      dsimp only
      obtain ⟨sent, hsent⟩ := run_of_isSilent reply (backend.reconcileRoute_isSilent model)
        (past ++ [.noted (.called .route)])
      rw [hsent]
      cases (run reply (past ++ [.noted (.called .route)]) (backend.reconcileRoute model)).2 with
      | error error =>
          refine ⟨_, .routeFailed error sent, ?_⟩
          rw [run_pure, failed_eq]
          simp [BackendAnswers.verdict]
      | ok route =>
          dsimp only
          rw [run_bind, run_leave, run_bind]
          dsimp only
          obtain ⟨sent', hsent'⟩ := run_of_isSilent reply (backend.status_isSilent model route)
            (past ++ [.noted (.called .route)] ++ requests sent ++ [.noted (.called .status)])
          rw [hsent']
          cases (run reply (past ++ [.noted (.called .route)] ++ requests sent ++
              [.noted (.called .status)]) (backend.status model route)).2 with
          | error error =>
              refine ⟨_, .statusFailed route error sent sent', ?_⟩
              rw [run_pure, failed_eq]
              simp [BackendAnswers.verdict]
          | ok found =>
              refine ⟨_, .observed route found sent sent', ?_⟩
              rw [run_pure, observed_eq]
              simp

/-- Where the backend was observed, it was called twice, and the second call ends the trace. -/
theorem run_evaluate_of_observed {route : RouteReference} {found : ModelEndpoint} (now : String)
    (h : answers reply registry model past = .observed route found) :
    ∃ backend routed, registry.get? model.backendKind = some backend ∧
      run reply (past ++ [.noted (.called .route)]) (backend.reconcileRoute model) =
        (routed, .ok route) ∧
      run reply (routed ++ [.noted (.called .status)]) (backend.status model route) =
        ((run reply past (evaluate registry model now)).1, .ok found) := by
  unfold answers at h
  cases hget : registry.get? model.backendKind with
  | none =>
      rw [hget] at h
      cases h
  | some backend =>
      rw [hget] at h
      rw [evaluate_of_registered hget]
      unfold withBackend
      rw [run_bind, run_leave, run_bind]
      dsimp only at h ⊢
      generalize hfirst : run reply (past ++ [.noted (.called .route)])
        (backend.reconcileRoute model) = called at h ⊢
      obtain ⟨routed, result⟩ := called
      cases result with
      | error error => cases h
      | ok reference =>
          dsimp only at h ⊢
          rw [run_bind, run_leave, run_bind]
          dsimp only
          generalize hlast : run reply (routed ++ [.noted (.called .status)])
            (backend.status model reference) = called at h ⊢
          obtain ⟨behind, result⟩ := called
          cases result with
          | error error => cases h
          | ok observed =>
              cases h
              exact ⟨backend, routed, rfl, hfirst, hlast⟩

/-- An evaluation notes nothing but the two calls. -/
theorem CallTrace.note_eq {a : BackendAnswers} {calls : List Event} (h : CallTrace a calls)
    {note : Note} (hnote : .noted note ∈ calls) :
    note = .called .route ∨ note = .called .status := by
  cases h with
  | unregistered => cases hnote
  | routeFailed error sent => exact Or.inl (by simpa using hnote)
  | statusFailed route error sent sent' => simpa using hnote
  | observed route found sent sent' => simpa using hnote

/-- The backend is asked for the route if and only if there is a backend. -/
theorem CallTrace.called_route_mem_iff {a : BackendAnswers} {calls : List Event}
    (h : CallTrace a calls) : .noted (.called .route) ∈ calls ↔ a.route? ≠ none := by
  cases h <;> simp [BackendAnswers.route?]

/-- It is asked for the status if and only if it has given a route. -/
theorem CallTrace.called_status_mem_iff {a : BackendAnswers} {calls : List Event}
    (h : CallTrace a calls) :
    .noted (.called .status) ∈ calls ↔ ∃ route, a.route? = some (.ok route) := by
  cases h <;> simp [BackendAnswers.route?]

theorem route?_answers_eq_none_iff (reply : Replies) (registry : Registry) (model : Model)
    (past : List Event) :
    (answers reply registry model past).route? = none ↔
      registry.get? model.backendKind = none := by
  unfold answers
  cases registry.get? model.backendKind with
  | none => simp [BackendAnswers.route?]
  | some backend =>
      dsimp only
      split
      · simp [BackendAnswers.route?]
      · split <;> simp [BackendAnswers.route?]

end Evaluation

end ModelGate

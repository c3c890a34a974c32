import Mathlib
import ModelGate.Proofs.Reconcile.SnapshotEvaluation

/-!
# The recorded route tells the endpoint

A model is asked for its endpoint by the route that its status records, or else by observing the
route.  As long as the API server answers every request in the same way, an evaluation records what
a fresh observation finds (`RouteReference.ofStatus?_of_recordsRoute`), so that nobody who asks for
the endpoint can tell the difference: `endpoint_of_evaluated`.
-/

namespace ModelGate

open Program (Event Replies run run_bind)

/-- The API server answers a request in the same way, whatever happened before. -/
def Unchanging (reply : Replies) : Prop :=
  ∀ past past' request limit, reply past request limit = reply past' request limit

/-- What a program results in depends on the replies alone. -/
theorem Unchanging.result_eq {α : Type} {reply : Replies} (h : Unchanging reply)
    (program : Program α) (past past' : List Event) :
    (run reply past program).2 = (run reply past' program).2 := by
  induction program generalizing past past' with
  | done value => rfl
  | ask request limit rest ih =>
      change (run reply _ (rest (reply past request limit))).2 =
        (run reply _ (rest (reply past' request limit))).2
      rw [h past past' request limit]
      exact ih _ _ _
  | note event rest ih => exact ih _ _

namespace RouteReference

theorem getD_nonEmpty (text : String) : (nonEmpty text).getD "" = text := by
  unfold nonEmpty
  split
  · next h => exact h.symm
  · rfl

/-- A recorded route is read back as it was, unless it lacks a name or a namespace. -/
theorem ofStatus?_of_recordsRoute {status : ModelStatus} {route : RouteReference}
    (h : RecordsRoute status (some route)) :
    ofStatus? status = if route.name = "" ∨ route.ns = "" then none else some route := by
  obtain ⟨hname, hns, hgatewayName, hgatewayNamespace, hhostnames⟩ := h
  rw [recordsText_iff] at hname hns hgatewayName hgatewayNamespace
  unfold ofStatus?
  rw [hname, hns, hgatewayName, hgatewayNamespace, hhostnames]
  simp only [Option.map_some, Option.bind_some, Option.elim_some, getD_nonEmpty]
  by_cases hnoName : route.name = ""
  · simp [nonEmpty, hnoName]
  · by_cases hnoNs : route.ns = ""
    · simp [nonEmpty, hnoNs]
    · simp [nonEmpty, hnoName, hnoNs]

theorem ofStatus?_of_recordsNone {status : ModelStatus} (h : RecordsRoute status none) :
    ofStatus? status = none := by
  have hname := recordsText_iff.1 h.name
  unfold ofStatus?
  rw [hname]
  rfl

end RouteReference

variable {reply : Replies} {gateway : GatewayRef} {limit : Duration} {model : Model}
  {service : InferenceService} {route : RouteReference} {past : List Event}

namespace InferenceBackend

/-! ## How the endpoint is found -/

theorem result_modelEndpoint_of_noService {error : BackendError} (status : Option ModelStatus)
    (hservice : (run reply past (getService limit model)).2 = .error error) :
    (run reply past (modelEndpoint gateway limit { model with status })).2 = .error error := by
  have hget : (run reply past (getService limit { model with status })).2 = .error error := hservice
  unfold modelEndpoint
  rw [run_bind, hget]
  rfl

theorem result_modelEndpoint_of_recorded {status : Option ModelStatus}
    (hservice : (run reply past (getService limit model)).2 = .ok service)
    (hrecorded : status.bind RouteReference.ofStatus? = some route) :
    (run reply past (modelEndpoint gateway limit { model with status })).2 =
      knownEndpoint model service route := by
  have hget : (run reply past (getService limit { model with status })).2 = .ok service := hservice
  have hroute : recordedRoute { model with status } = some route := hrecorded
  unfold modelEndpoint
  rw [run_bind, hget]
  dsimp only
  rw [hroute]
  rfl

theorem result_modelEndpoint_of_unrecorded {status : Option ModelStatus}
    {observed : Except BackendError RouteReference}
    (hservice : (run reply past (getService limit model)).2 = .ok service)
    (hnone : status.bind RouteReference.ofStatus? = none)
    (hobserved : ∀ past, (run reply past (observeRoute gateway limit model service)).2 = observed) :
    (run reply past (modelEndpoint gateway limit { model with status })).2 =
      observed.bind (knownEndpoint model service) := by
  have hget : (run reply past (getService limit { model with status })).2 = .ok service := hservice
  have hroute : recordedRoute { model with status } = none := hnone
  have hobserve : ∀ past, (run reply past
      (observeRoute gateway limit { model with status } service)).2 = observed := hobserved
  unfold modelEndpoint
  rw [run_bind, hget]
  dsimp only
  rw [hroute]
  dsimp only
  rw [run_bind, hobserve]
  cases observed <;> rfl

/-- Whether or not a status records the route that is observed, the endpoint is the same. -/
theorem result_modelEndpoint_of_seen (status : Option ModelStatus)
    {observed : Except BackendError RouteReference}
    (hservice : (run reply past (getService limit model)).2 = .ok service)
    (hobserved : ∀ past, (run reply past (observeRoute gateway limit model service)).2 = observed)
    (hstatus : ∀ recorded, status.bind RouteReference.ofStatus? = some recorded →
      observed = .ok recorded) :
    (run reply past (modelEndpoint gateway limit { model with status })).2 =
      observed.bind (knownEndpoint model service) := by
  cases hrecorded : status.bind RouteReference.ofStatus? with
  | none => exact result_modelEndpoint_of_unrecorded hservice hrecorded hobserved
  | some recorded =>
      rw [hstatus recorded hrecorded]
      exact result_modelEndpoint_of_recorded hservice hrecorded

/-! ## What an evaluation records -/

theorem result_reconcileRoute_of_noService {error : BackendError}
    (hservice : (run reply past (getService limit model)).2 = .error error) :
    (run reply past (reconcileRoute gateway limit model)).2 = .error error := by
  unfold reconcileRoute
  rw [run_bind, hservice]
  rfl

theorem result_reconcileRoute_of_seen {observed : Except BackendError RouteReference}
    (hservice : (run reply past (getService limit model)).2 = .ok service)
    (hobserved : ∀ past, (run reply past (observeRoute gateway limit model service)).2 = observed) :
    (run reply past (reconcileRoute gateway limit model)).2 = observed := by
  unfold reconcileRoute
  rw [run_bind, hservice]
  exact hobserved _

end InferenceBackend

theorem Judged.recordsNone {kind : String} {error : BackendError} {v : Verdict}
    (h : Judged kind (.routeFailed error) v) (model : Model) (now : String) :
    RecordsRoute (v.evaluation model now).status none := by
  have hroute := h.route_of_unanswered (Or.inl (by simp [BackendAnswers.route?]))
  rw [← hroute]
  exact v.recordsRoute_evaluation model now

theorem Judged.phase_ne_ready {kind : String} {error : BackendError} {v : Verdict}
    (h : Judged kind (.routeFailed error) v) : v.outcome.phase ≠ .ready := by
  intro hready
  obtain ⟨route, url, hanswers, -⟩ := h.observed_of_ready hready
  cases hanswers

open InferenceBackend (getService observeRoute modelEndpoint knownEndpoint)

theorem evaluated_of_noService {error : BackendError}
    (hkind : model.backendKind = InferenceBackend.kind)
    (hservice : ∀ past, (run reply past (getService limit model)).2 = .error error)
    (past : List Event) (now : String) :
    (run reply past (Evaluation.evaluate (Pass.registry gateway limit) model
      now)).2.status.phase ≠ some .ready := by
  obtain ⟨calls, -, hrun⟩ :=
    Evaluation.run_evaluate_eq reply (Pass.registry gateway limit) model now past
  have hroute : (run reply (past ++ [.noted (.called .route)])
      ((InferenceBackend.backend gateway limit).reconcileRoute model)).2 = .error error :=
    InferenceBackend.result_reconcileRoute_of_noService (hservice _)
  rw [hrun, Evaluation.answers_of_routeFailed (Pass.get?_registry_of_inference hkind) hroute,
    Verdict.phase_evaluation]
  exact fun hready => (judged_verdict _ _).phase_ne_ready (Option.some.inj hready)

/-- An evaluation records no other route than the observed one, and it ends ready only with the
endpoint behind that route. -/
theorem evaluated_of_seen {observed : Except BackendError RouteReference}
    (hkind : model.backendKind = InferenceBackend.kind)
    (hservice : ∀ past, (run reply past (getService limit model)).2 = .ok service)
    (hobserved : ∀ past, (run reply past (observeRoute gateway limit model service)).2 = observed)
    (past : List Event) (now : String) {e : Evaluation}
    (he : (run reply past (Evaluation.evaluate (Pass.registry gateway limit) model now)).2 = e) :
    (∀ recorded, RouteReference.ofStatus? e.status = some recorded → observed = .ok recorded) ∧
    (e.status.phase = some .ready → ∃ url, e.status.endpoint = some url ∧
      observed.bind (knownEndpoint model service) = .ok url) := by
  obtain ⟨calls, -, hrun⟩ :=
    Evaluation.run_evaluate_eq reply (Pass.registry gateway limit) model now past
  rw [hrun] at he
  subst he
  have hget : (Pass.registry gateway limit).get? model.backendKind =
      some (InferenceBackend.backend gateway limit) := Pass.get?_registry_of_inference hkind
  have hroute : (run reply (past ++ [.noted (.called .route)])
      ((InferenceBackend.backend gateway limit).reconcileRoute model)).2 = observed :=
    InferenceBackend.result_reconcileRoute_of_seen (hservice _) hobserved
  cases observed with
  | error error =>
      have hjudged := judged_verdict model.backendKind (.routeFailed error)
      rw [Evaluation.answers_of_routeFailed hget hroute]
      refine ⟨?_, fun hready => absurd (Option.some.inj hready) hjudged.phase_ne_ready⟩
      intro recorded hrecorded
      rw [RouteReference.ofStatus?_of_recordsNone (hjudged.recordsNone model now)] at hrecorded
      cases hrecorded
  | ok route =>
      have hjudged := judged_verdict model.backendKind
        (.observed route ⟨InferenceBackend.endpoint service route, service.isReady⟩)
      rw [Evaluation.answers_of_observed hget hroute
        fun past => InferenceBackend.result_status_of_service (hservice past) route]
      refine ⟨?_, ?_⟩
      · intro recorded hrecorded
        -- What is read back is what was written, which is the observed route.
        have hrecords := Verdict.recordsRoute_evaluation
          (BackendAnswers.verdict model.backendKind
            (.observed route ⟨InferenceBackend.endpoint service route, service.isReady⟩)) model now
        rw [hjudged.route_of_observed] at hrecords
        rw [RouteReference.ofStatus?_of_recordsRoute hrecords] at hrecorded
        split at hrecorded
        · cases hrecorded
        · exact congrArg Except.ok (Option.some.inj hrecorded)
      · intro hready
        obtain ⟨route', url, hanswers, hverdict⟩ :=
          hjudged.observed_of_ready (Option.some.inj hready)
        obtain ⟨rfl, hfound⟩ := BackendAnswers.observed.inj hanswers
        obtain ⟨hurl, -⟩ := ModelEndpoint.mk.inj hfound
        refine ⟨url, ?_, ?_⟩
        · rw [hverdict]
          rfl
        · change knownEndpoint model service route = .ok url
          unfold knownEndpoint
          rw [hurl]

/-- A model that carries the status of its evaluation and one that carries none are found at the
same endpoint, or there is the same error.  Where the evaluation ended ready, the endpoint is the
one that the status tells. -/
theorem endpoint_of_evaluated (hreply : Unchanging reply)
    (hkind : model.backendKind = InferenceBackend.kind) {e : Evaluation} {now : String}
    (he : (run reply past (Evaluation.evaluate (Pass.registry gateway limit) model now)).2 = e)
    (past' past'' : List Event) :
    (run reply past' (modelEndpoint gateway limit { model with status := some e.status })).2 =
      (run reply past'' (modelEndpoint gateway limit { model with status := none })).2 ∧
    (e.status.phase = some .ready → ∃ url, e.status.endpoint = some url ∧
      (run reply past' (modelEndpoint gateway limit
        { model with status := some e.status })).2 = .ok url ∧
      (run reply past'' (modelEndpoint gateway limit
        { model with status := none })).2 = .ok url) := by
  -- What the API server says once it says at any time.
  generalize hgot : (run reply past (getService limit model)).2 = got
  have hservice : ∀ past, (run reply past (getService limit model)).2 = got :=
    fun other => (hreply.result_eq _ other past).trans hgot
  cases got with
  | error error =>
      rw [InferenceBackend.result_modelEndpoint_of_noService _ (hservice past'),
        InferenceBackend.result_modelEndpoint_of_noService _ (hservice past'')]
      refine ⟨rfl, fun hready => ?_⟩
      rw [← he] at hready
      exact absurd hready (evaluated_of_noService hkind hservice past now)
  | ok service =>
      generalize hseen : (run reply past (observeRoute gateway limit model service)).2 = observed
      have hobserved : ∀ past,
          (run reply past (observeRoute gateway limit model service)).2 = observed :=
        fun other => (hreply.result_eq _ other past).trans hseen
      obtain ⟨hrecorded, hready⟩ := evaluated_of_seen hkind hservice hobserved past now he
      rw [InferenceBackend.result_modelEndpoint_of_seen (some e.status) (hservice past') hobserved
          hrecorded,
        InferenceBackend.result_modelEndpoint_of_seen none (hservice past'') hobserved (by simp)]
      refine ⟨rfl, fun hphase => ?_⟩
      obtain ⟨url, hendpoint, hurl⟩ := hready hphase
      exact ⟨url, hendpoint, hurl, hurl⟩

theorem Cluster.unchanging_replies (c : Cluster) : Unchanging c.replies :=
  fun _ _ _ _ => rfl

/-- The evaluation of a model that is reached below the hostname of a listener. -/
def listenerEvaluation : Evaluation :=
  (run listenerCluster.replies [] (Evaluation.evaluate (Pass.registry ⟨"g", "g"⟩ 5) servedModel
    "now")).2

/-- The hostname is recorded, and the endpoint that is found by the record is the one that is found
without it. -/
theorem listenerEvaluation_endpoint :
    Unchanging listenerCluster.replies ∧ servedModel.backendKind = InferenceBackend.kind ∧
      listenerEvaluation.status.routeHostnames = ["models.example.com"] ∧
      (run listenerCluster.replies [] (modelEndpoint ⟨"g", "g"⟩ 5
        { servedModel with status := some listenerEvaluation.status })).2 =
          .ok "https://models.example.com/n/x" ∧
      (run listenerCluster.replies [] (modelEndpoint ⟨"g", "g"⟩ 5
        { servedModel with status := none })).2 = .ok "https://models.example.com/n/x" := by
  have hevaluated : (run listenerCluster.replies [] (Evaluation.evaluate
      (Pass.registry ⟨"g", "g"⟩ 5) servedModel "now")).2 = listenerEvaluation := rfl
  have hphase : listenerEvaluation.status.phase = some .ready := by decide +kernel
  have hendpoint : listenerEvaluation.status.endpoint = some "https://models.example.com/n/x" := by
    decide +kernel
  obtain ⟨-, hready⟩ :=
    endpoint_of_evaluated listenerCluster.unchanging_replies rfl hevaluated [] []
  obtain ⟨url, hurl, hcarried, hfresh⟩ := hready hphase
  rw [hendpoint] at hurl
  cases hurl
  exact ⟨listenerCluster.unchanging_replies, rfl, by decide +kernel, hcarried, hfresh⟩

end ModelGate

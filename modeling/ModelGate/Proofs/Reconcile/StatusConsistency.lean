import Mathlib
import ModelGate.Proofs.Reconcile.Answers
import ModelGate.Reconcile.ExternalBackend

/-!
# The fields of a status fit together

Whatever a model carried before and whatever its backend answers, the phase, the endpoint, the
route and the ready condition of the status that an evaluation gives back tell the same story.
`StatusConsistent` is that story, and `evaluate_isConsistent` proves it.

There are seven ways through an evaluation, the constructors of `Judged`.  What they find out is
read off case by case; what the former status contributes is left to the lemmas on `setReady`.
-/

namespace ModelGate

open Program (Event Replies run)

namespace Evaluation

/-- Whether a condition is of the type that evaluations maintain. -/
def isReadyCondition (c : Condition) : Bool :=
  c.type == readyType

/-- Whether evaluations leave a condition alone. -/
def isOtherCondition (c : Condition) : Bool :=
  c.type != readyType

/-- The conditions that a model carries. -/
def carried (model : Model) : List Condition :=
  model.status.elim [] (·.conditions)

/-! ## Replacing the ready condition -/

variable {condition : Condition}

theorem filter_isReadyCondition_replaceReady (hcondition : isReadyCondition condition = true)
    {conditions : List Condition} (h : (conditions.filter isReadyCondition).length ≤ 1) :
    (replaceReady condition conditions).filter isReadyCondition = [condition] := by
  induction conditions with
  | nil => simp [replaceReady, hcondition]
  | cons c rest ih =>
      unfold replaceReady
      by_cases hc : c.type = readyType
      · have hready : isReadyCondition c = true := by simpa [isReadyCondition] using hc
        -- The replaced condition was the only one.
        have hrest : rest.filter isReadyCondition = [] := by
          rw [List.filter_cons_of_pos hready, List.length_cons] at h
          exact List.length_eq_zero_iff.1 (by omega)
        rw [if_pos hc, List.filter_cons_of_pos hcondition, hrest]
      · have hother : ¬ isReadyCondition c = true := by simpa [isReadyCondition] using hc
        rw [List.filter_cons_of_neg hother] at h
        rw [if_neg hc, List.filter_cons_of_neg hother, ih h]

theorem filter_isOtherCondition_replaceReady (hcondition : isReadyCondition condition = true)
    (conditions : List Condition) :
    (replaceReady condition conditions).filter isOtherCondition =
      conditions.filter isOtherCondition := by
  have hnew : ¬ isOtherCondition condition = true := by
    simpa [isOtherCondition, isReadyCondition] using hcondition
  induction conditions with
  | nil =>
      unfold replaceReady
      rw [List.filter_cons_of_neg hnew]
  | cons c rest ih =>
      unfold replaceReady
      by_cases hc : c.type = readyType
      · have hready : ¬ isOtherCondition c = true := by simpa [isOtherCondition] using hc
        rw [if_pos hc, List.filter_cons_of_neg hnew, List.filter_cons_of_neg hready]
      · have hother : isOtherCondition c = true := by simpa [isOtherCondition] using hc
        rw [if_neg hc, List.filter_cons_of_pos hother, List.filter_cons_of_pos hother, ih]

theorem find?_replaceReady (hcondition : isReadyCondition condition = true)
    (conditions : List Condition) :
    (replaceReady condition conditions).find? isReadyCondition = some condition := by
  induction conditions with
  | nil => simp [replaceReady, hcondition]
  | cons c rest ih =>
      unfold replaceReady
      by_cases hc : c.type = readyType
      · rw [if_pos hc, List.find?_cons_of_pos hcondition]
      · have hother : ¬ isReadyCondition c = true := by simpa [isReadyCondition] using hc
        rw [if_neg hc, List.find?_cons_of_neg hother, ih]

end Evaluation

namespace Verdict

variable (v : Verdict) (model : Model) (now : String)

/-- The ready condition that a verdict gives a model. -/
def condition : Condition where
  type := Evaluation.readyType
  status := if v.outcome = .ready then "True" else "False"
  reason := v.reason
  message := v.message
  lastTransitionTime :=
    Evaluation.transitionTime ((Evaluation.carried model).find? (·.type == Evaluation.readyType))
      (if v.outcome = .ready then "True" else "False") v.reason now
  observedGeneration := model.metadata.generation

theorem isReadyCondition_condition :
    Evaluation.isReadyCondition (v.condition model now) = true :=
  beq_self_eq_true _

/-- The route is written over an empty status, so the conditions are those of the model. -/
theorem conditions_bareStatus : (v.bareStatus model).conditions = Evaluation.carried model := by
  unfold bareStatus Evaluation.base
  cases v.route <;> rfl

theorem observedGeneration_bareStatus :
    (v.bareStatus model).observedGeneration = model.metadata.generation := by
  unfold bareStatus Evaluation.base
  cases v.route <;> rfl

theorem conditions_evaluation :
    (v.evaluation model now).status.conditions =
      Evaluation.replaceReady (v.condition model now) (Evaluation.carried model) := by
  unfold evaluation Evaluation.setReady
  dsimp only
  rw [conditions_bareStatus]
  by_cases h : v.outcome = .ready
  · simp [condition, h]
  · simp [condition, h]

end Verdict

/-- A field of a status holds the text that there is, unless it is empty. -/
def RecordsText (field text : Option String) : Prop :=
  ∀ t, field = some t ↔ text = some t ∧ t ≠ ""

theorem recordsText_iff {field text : Option String} :
    RecordsText field text ↔ field = text.bind RouteReference.nonEmpty := by
  have hholds : RecordsText (text.bind RouteReference.nonEmpty) text := by
    intro t
    cases text with
    | none => simp
    | some text =>
        by_cases hempty : text = ""
        · simp [RouteReference.nonEmpty, hempty, eq_comm]
        · simp only [RouteReference.nonEmpty, hempty, Option.bind_some, if_false, Option.some.injEq]
          exact ⟨fun h => ⟨h, h ▸ hempty⟩, fun h => h.1⟩
  constructor
  · intro h
    exact Option.ext fun t => (h t).trans (hholds t).symm
  · rintro rfl
    exact hholds

/-- A status records a route, whose empty parts are left out, or no route at all. -/
structure RecordsRoute (status : ModelStatus) (route : Option RouteReference) : Prop where
  name : RecordsText status.routeName (route.map (·.name))
  ns : RecordsText status.routeNamespace (route.map (·.ns))
  gatewayName : RecordsText status.routeGatewayName (route.map (·.gatewayName))
  gatewayNamespace : RecordsText status.routeGatewayNamespace (route.map (·.gatewayNamespace))
  hostnames : status.routeHostnames = route.elim [] (·.hostnames)

theorem recordsRoute_writeTo (route : RouteReference) (status : ModelStatus) :
    RecordsRoute (route.writeTo status) (some route) :=
  ⟨recordsText_iff.2 rfl, recordsText_iff.2 rfl, recordsText_iff.2 rfl, recordsText_iff.2 rfl, rfl⟩

theorem Verdict.recordsRoute_evaluation (v : Verdict) (model : Model) (now : String) :
    RecordsRoute (v.evaluation model now).status v.route := by
  obtain ⟨outcome, endpoint, route, reason, message⟩ := v
  cases route <;>
    exact ⟨recordsText_iff.2 rfl, recordsText_iff.2 rfl, recordsText_iff.2 rfl,
      recordsText_iff.2 rfl, rfl⟩

/-! ## The seven ways through an evaluation -/

/-- What the answers of a backend amount to. -/
inductive Judged (kind : String) : BackendAnswers → Verdict → Prop
  | unregistered : Judged kind .unregistered
      (.unsupported ("backend kind " ++ Text.quoted kind ++ " is not supported"))
  | routeLacking {error : BackendError} (h : error.isNotImplemented = true) :
      Judged kind (.routeFailed error) (.unsupported error.message)
  | routeFailed {error : BackendError} (h : error.isNotImplemented = false) :
      Judged kind (.routeFailed error)
        ⟨.failed error, none, none, "ReconcileFailed", error.message⟩
  | statusLacking (route : RouteReference) {error : BackendError}
      (h : error.isNotImplemented = true) :
      Judged kind (.statusFailed route error) (.unsupported error.message)
  | statusFailed (route : RouteReference) {error : BackendError}
      (h : error.isNotImplemented = false) :
      Judged kind (.statusFailed route error)
        ⟨.failed error, none, some route, "StatusFailed", error.message⟩
  | ready (route : RouteReference) (url : String) :
      Judged kind (.observed route ⟨some url, true⟩) (.ready route url)
  | pending (route : RouteReference) {found : ModelEndpoint} (message : String)
      (h : found.ready = false ∨ found.endpoint = none) :
      Judged kind (.observed route found) (.pending route message)

theorem judged_verdict (kind : String) (a : BackendAnswers) : Judged kind a (a.verdict kind) := by
  cases a with
  | unregistered => exact .unregistered
  | routeFailed error =>
      change Judged kind (.routeFailed error) (.failed none "ReconcileFailed" error)
      unfold Verdict.failed
      cases h : error.isNotImplemented with
      | true => exact .routeLacking h
      | false => exact .routeFailed h
  | statusFailed route error =>
      change Judged kind (.statusFailed route error) (.failed (some route) "StatusFailed" error)
      unfold Verdict.failed
      cases h : error.isNotImplemented with
      | true => exact .statusLacking route h
      | false => exact .statusFailed route h
  | observed route found =>
      obtain ⟨endpoint, ready⟩ := found
      cases ready with
      | false => cases endpoint <;> exact .pending route _ (Or.inl rfl)
      | true =>
          cases endpoint with
          | none => exact .pending route _ (Or.inr rfl)
          | some url => exact .ready route url

/-! ## What a status says -/

/-- An answer that is an error. -/
def BackendAnswers.Fails (a : BackendAnswers) (error : BackendError) : Prop :=
  a.route? = some (.error error) ∨ a.status? = some (.error error)

/-- What an error says: what the backend lacks or misses, how long a request was waited for, or all
that the API server says about its refusal. -/
inductive BackendError.HasText : BackendError → String → Prop
  | notImplemented (kind : String) :
      HasText (.notImplemented kind) ("backend kind " ++ kind ++ " is not implemented")
  | unavailable (text : String) : HasText (.unavailable text) text
  | timeout (limit : Duration) :
      HasText (.timeout limit) ("request timed out after " ++ Duration.text limit)
  | refused (status message reason : String) (code : Nat) :
      HasText (.request (.refused ⟨status, message, reason, code⟩))
        ("ApiError: " ++ (message ++ ": " ++ reason) ++ " (ErrorResponse \x7b status: " ++
          Text.quoted status ++ ", message: " ++ Text.quoted message ++ ", reason: " ++
          Text.quoted reason ++ ", code: " ++ toString code ++ " \x7d)")
  | unnamed : HasText (.request .unnamed)
      "Failed to build request: failed to validate request: A non-empty name is required"
  | unreadable : HasText (.request .unreadable) "Error deserializing response"

theorem BackendError.hasText_iff {error : BackendError} {text : String} :
    error.HasText text ↔ text = error.message := by
  constructor
  · intro h
    cases h <;> rfl
  · rintro rfl
    cases error with
    | notImplemented kind => exact .notImplemented kind
    | unavailable text => exact .unavailable text
    | timeout limit => exact .timeout limit
    | request error =>
        cases error with
        | refused error => exact .refused error.status error.message error.reason error.code
        | unnamed => exact .unnamed
        | unreadable => exact .unreadable

example : BackendError.HasText (.timeout 1500000000) "request timed out after 1.5s" :=
  BackendError.hasText_iff.2 (by decide +kernel)

example : BackendError.HasText (.request (.refused ⟨"Failure", "say \"no\"", "Invalid", 422⟩))
    ("ApiError: say \"no\": Invalid (ErrorResponse \x7b status: \"Failure\", " ++
      "message: \"say \\\"no\\\"\", reason: \"Invalid\", code: 422 \x7d)") :=
  BackendError.hasText_iff.2 (by decide +kernel)

/-- The ready condition that goes with an evaluation. -/
structure Announces (model : Model) (a : BackendAnswers) (e : Evaluation) (c : Condition) :
    Prop where
  status : c.status = if e.status.phase = some .ready then "True" else "False"
  reason_ready : e.status.phase = some .ready → c.reason = "Ready"
  reason_pending : e.status.phase = some .pending → c.reason = "BackendNotReady"
  reason_unsupported : e.status.phase = some .unsupported → c.reason = "Unsupported"
  /-- The reason of a failure names the call that failed. -/
  reason_failed : e.status.phase = some .failed → ∀ error,
    (a.route? = some (.error error) → c.reason = "ReconcileFailed") ∧
      (a.status? = some (.error error) → c.reason = "StatusFailed")
  /-- Its message is the error, whether that is a failure or something the backend lacks. -/
  message_failed : ∀ error, e.outcome = .failed error → error.HasText c.message
  message_lacking : ∀ error, a.Fails error → error.isNotImplemented = true →
    error.HasText c.message
  observedGeneration : c.observedGeneration = model.metadata.generation

/-- What the status that an evaluation gives back says, and which calls lead to it. -/
structure StatusConsistent (registry : Registry) (model : Model) (a : BackendAnswers)
    (calls : List Event) (e : Evaluation) : Prop where
  phase : e.status.phase = some e.outcome.phase
  endpoint_iff : e.status.endpoint ≠ none ↔ e.status.phase = some .ready
  /-- There is one ready condition, and it fits the phase. -/
  ready_once : ∃ c, e.status.conditions.filter Evaluation.isReadyCondition = [c] ∧
    Announces model a e c
  others_kept : e.status.conditions.filter Evaluation.isOtherCondition =
    (Evaluation.carried model).filter Evaluation.isOtherCondition
  observedGeneration : e.status.observedGeneration = model.metadata.generation
  route_called_iff : .noted (.called .route) ∈ calls ↔ registry.get? model.backendKind ≠ none
  route_answered_iff : a.route? ≠ none ↔ registry.get? model.backendKind ≠ none
  status_called_iff : .noted (.called .status) ∈ calls ↔
    registry.get? model.backendKind ≠ none ∧ ∃ route, a.route? = some (.ok route)
  status_answered_iff : a.status? ≠ none ↔ ∃ route, a.route? = some (.ok route)
  unsupported_iff : e.status.phase = some .unsupported ↔
    registry.get? model.backendKind = none ∨
      ∃ error, a.Fails error ∧ error.isNotImplemented = true
  failed_iff : e.status.phase = some .failed ↔
    ∃ error, a.Fails error ∧ error.isNotImplemented = false
  /-- A failure carries the error of the call that failed. -/
  failed_error : ∀ error, a.Fails error → error.isNotImplemented = false →
    e.outcome = .failed error
  ready_iff : ∀ url, (e.status.phase = some .ready ∧ e.status.endpoint = some url) ↔
    a.status? = some (.ok ⟨some url, true⟩)
  pending_iff : e.status.phase = some .pending ↔
    ∃ found, a.status? = some (.ok found) ∧ (found.ready = false ∨ found.endpoint = none)
  route_recorded : ∀ route, a.route? = some (.ok route) → e.status.phase ≠ some .unsupported →
    RecordsRoute e.status (some route)
  route_absent : (∀ route, a.route? ≠ some (.ok route)) ∨ e.status.phase = some .unsupported →
    RecordsRoute e.status none

namespace Judged

variable {kind : String} {a : BackendAnswers} {v : Verdict}

theorem endpoint_iff (h : Judged kind a v) : v.endpoint ≠ none ↔ v.outcome.phase = .ready := by
  cases h <;> simp [Outcome.phase]

theorem unsupported_iff (h : Judged kind a v) :
    v.outcome.phase = .unsupported ↔
      a.route? = none ∨ ∃ error, a.Fails error ∧ error.isNotImplemented = true := by
  unfold BackendAnswers.Fails
  cases h <;> simp_all [Outcome.phase, BackendAnswers.route?, BackendAnswers.status?]

theorem failed_error (h : Judged kind a v) {error : BackendError} (hfails : a.Fails error)
    (herror : error.isNotImplemented = false) : v.outcome = .failed error := by
  unfold BackendAnswers.Fails at hfails
  cases h <;> simp_all [BackendAnswers.route?, BackendAnswers.status?]

theorem failed_iff (h : Judged kind a v) :
    v.outcome.phase = .failed ↔ ∃ error, a.Fails error ∧ error.isNotImplemented = false := by
  constructor
  · intro hphase
    unfold BackendAnswers.Fails
    cases h <;> simp_all [Outcome.phase, BackendAnswers.route?, BackendAnswers.status?]
  · rintro ⟨error, hfails, herror⟩
    rw [h.failed_error hfails herror]
    rfl

theorem ready_iff (h : Judged kind a v) (url : String) :
    (v.outcome.phase = .ready ∧ v.endpoint = some url) ↔
      a.status? = some (.ok ⟨some url, true⟩) := by
  cases h with
  | pending route message hlacking =>
      have hother : ∀ found : ModelEndpoint, (found.ready = false ∨ found.endpoint = none) →
          found ≠ ⟨some url, true⟩ := by
        rintro found hfound rfl
        simp at hfound
      simpa [Outcome.phase, BackendAnswers.status?] using hother _ hlacking
  | _ => simp [Outcome.phase, BackendAnswers.status?]

theorem pending_iff (h : Judged kind a v) :
    v.outcome.phase = .pending ↔
      ∃ found, a.status? = some (.ok found) ∧ (found.ready = false ∨ found.endpoint = none) := by
  cases h <;> simp_all [Outcome.phase, BackendAnswers.status?]

theorem route_of_answered (h : Judged kind a v) {route : RouteReference}
    (hroute : a.route? = some (.ok route)) (hphase : v.outcome.phase ≠ .unsupported) :
    v.route = some route := by
  cases h <;> simp_all [Outcome.phase, BackendAnswers.route?]

theorem route_of_unanswered (h : Judged kind a v)
    (hroute : (∀ route, a.route? ≠ some (.ok route)) ∨ v.outcome.phase = .unsupported) :
    v.route = none := by
  cases h <;> simp_all [Outcome.phase, BackendAnswers.route?]

theorem route_of_observed {route : RouteReference} {found : ModelEndpoint}
    (h : Judged kind (.observed route found) v) : v.route = some route := by
  cases h <;> rfl

theorem phase_of_observed {route : RouteReference} {found : ModelEndpoint}
    (h : Judged kind (.observed route found) v) :
    v.outcome.phase = .pending ∨ ∃ url, v.outcome.phase = .ready ∧ v.endpoint = some url := by
  cases h with
  | ready _ url => exact Or.inr ⟨url, rfl, rfl⟩
  | pending _ message hlacking => exact Or.inl rfl

/-- The ready condition of a verdict fits what the answers amount to. -/
theorem announces (h : Judged kind a v) (model : Model) (now : String) :
    Announces model a (v.evaluation model now) (v.condition model now) where
  status := by
    cases h <;> simp [Verdict.condition, Outcome.phase]
  reason_ready := by
    cases h <;> simp [Verdict.condition, Outcome.phase]
  reason_pending := by
    cases h <;> simp [Verdict.condition, Outcome.phase]
  reason_unsupported := by
    cases h <;> simp [Verdict.condition, Outcome.phase]
  reason_failed := by
    cases h <;>
      simp [Verdict.condition, Outcome.phase, BackendAnswers.route?, BackendAnswers.status?]
  message_failed := by
    cases h <;> simp [Verdict.condition, BackendError.hasText_iff]
  message_lacking := by
    unfold BackendAnswers.Fails
    cases h <;>
      simp_all [Verdict.condition, BackendAnswers.route?, BackendAnswers.status?,
        BackendError.hasText_iff]
  observedGeneration := rfl

end Judged

/-- Whatever a model carried before, if it carried at most one ready condition, and whatever its
backend answers, the status that an evaluation gives back is consistent. -/
theorem evaluate_isConsistent (reply : Replies) (registry : Registry) {model : Model} (now : String)
    (hready : ((Evaluation.carried model).filter Evaluation.isReadyCondition).length ≤ 1) :
    StatusConsistent registry model (Evaluation.answers reply registry model [])
      (run reply [] (Evaluation.evaluate registry model now)).1
      (run reply [] (Evaluation.evaluate registry model now)).2 := by
  obtain ⟨calls, hcalls, hrun⟩ := Evaluation.run_evaluate_eq reply registry model now []
  have hregistered := Evaluation.route?_answers_eq_none_iff reply registry model []
  rw [hrun, List.nil_append]
  generalize Evaluation.answers reply registry model [] = a at hcalls hregistered
  have hjudged := judged_verdict model.backendKind a
  generalize a.verdict model.backendKind = v at hjudged
  exact {
    phase := rfl
    endpoint_iff := by simpa using hjudged.endpoint_iff
    ready_once := by
      refine ⟨v.condition model now, ?_, hjudged.announces model now⟩
      rw [v.conditions_evaluation]
      exact Evaluation.filter_isReadyCondition_replaceReady
        (v.isReadyCondition_condition model now) hready
    others_kept := by
      rw [v.conditions_evaluation]
      exact Evaluation.filter_isOtherCondition_replaceReady
        (v.isReadyCondition_condition model now) _
    observedGeneration := v.observedGeneration_bareStatus model
    route_called_iff := by rw [hcalls.called_route_mem_iff, ne_eq, hregistered]
    route_answered_iff := not_congr hregistered
    status_called_iff := by
      rw [hcalls.called_status_mem_iff, ne_eq, ← hregistered]
      constructor
      · rintro ⟨route, hroute⟩
        exact ⟨by simp [hroute], route, hroute⟩
      · exact fun h => h.2
    status_answered_iff := by
      cases a <;> simp [BackendAnswers.route?, BackendAnswers.status?]
    unsupported_iff := by simpa [← hregistered] using hjudged.unsupported_iff
    failed_iff := by simpa using hjudged.failed_iff
    failed_error := fun error hfails herror => hjudged.failed_error hfails herror
    ready_iff := by simpa using hjudged.ready_iff
    pending_iff := by simpa using hjudged.pending_iff
    route_recorded := by
      intro route hroute hphase
      rw [← hjudged.route_of_answered hroute (by simpa using hphase)]
      exact v.recordsRoute_evaluation model now
    route_absent := by
      intro hroute
      rw [← hjudged.route_of_unanswered (by simpa using hroute)]
      exact v.recordsRoute_evaluation model now }

/-- A model that was ready before its kind was taken out of service. -/
def formerlyReady : Model :=
  ⟨{ Metadata.blank with name := some "opt", ns := some "llm", generation := some 2 },
    ⟨"ExternalModel", "opt", none⟩,
    some { ModelStatus.blank with
      phase := some .ready
      endpoint := some "https://opt.example.com"
      routeName := some "opt-route"
      conditions := [⟨"Accepted", "True", "Seen", "", none, none⟩,
        ⟨"Ready", "True", "Ready", "model is ready", none, some 1⟩] }⟩

/-- It loses its endpoint and its route. -/
theorem formerlyReady_loses_endpoint :
    ((Evaluation.carried formerlyReady).filter Evaluation.isReadyCondition).length ≤ 1 ∧
      (run (fun _ _ _ => .timedOut) [] (Evaluation.evaluate
        (Registry.empty.register "ExternalModel" (ExternalBackend.backend 5))
        formerlyReady "now")).2.status.endpoint = none ∧
      RecordsRoute (run (fun _ _ _ => .timedOut) [] (Evaluation.evaluate
        (Registry.empty.register "ExternalModel" (ExternalBackend.backend 5))
        formerlyReady "now")).2.status none := by
  have hready : ((Evaluation.carried formerlyReady).filter
      Evaluation.isReadyCondition).length ≤ 1 := by decide
  have hconsistent := evaluate_isConsistent (fun _ _ _ => .timedOut)
    (Registry.empty.register "ExternalModel" (ExternalBackend.backend 5)) "now" hready
  -- The backend lacks routes, which makes the model unsupported.
  have hphase := hconsistent.unsupported_iff.2
    (Or.inr ⟨.notImplemented "ExternalModel", Or.inl rfl, rfl⟩)
  refine ⟨hready, ?_, hconsistent.route_absent (Or.inr hphase)⟩
  by_contra hendpoint
  have hready := hconsistent.endpoint_iff.1 hendpoint
  rw [hphase] at hready
  cases hready

end ModelGate

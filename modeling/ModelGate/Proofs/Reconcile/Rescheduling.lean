import Mathlib
import ModelGate.Proofs.Reconcile.Convergence

/-!
# The outcome of an evaluation decides what comes next

The pass over a served model evaluates it, stores the status if the model carries another one, and
only then looks at the outcome.  If the status could not be stored the pass fails and no failure is
forgotten; otherwise the outcome decides between the next look at the model and a retry.

`pass_followsOutcome` says so for all registries, backends and replies.  What the pass results in is
`result_of_unstored` and `result_of_stored`; what it leaves in the records follows from whether it
settles the model, for which `backoff_recordsBehind` stands.
-/

namespace ModelGate

open Program (Event Replies run run_bind run_leave run_pure)

/-! ## What the records take up -/

namespace Records

/-- Notes that settle at most one object clear the failures of this one and no others. -/
theorem backoff_foldl_note {id : ObjectId} {notes : List Note}
    (hnotes : ∀ other, .settled other ∈ notes → other = id) (r : Records) :
    (notes.foldl note r).backoff =
      if .settled id ∈ notes then r.backoff.reset id else r.backoff := by
  induction notes generalizing r with
  | nil => simp
  | cons n rest ih =>
      have hrest := ih fun other hother => hnotes other (List.mem_cons_of_mem n hother)
      rw [List.foldl_cons, hrest]
      cases n with
      | settled other =>
          have hother : other = id := hnotes other List.mem_cons_self
          subst hother
          have htwice : (r.backoff.reset other).reset other = r.backoff.reset other := by
            simp [Backoff.reset]
          change (if _ then (r.backoff.reset other).reset other else r.backoff.reset other) = _
          simp [htwice]
      | called call => simp [note]
      | reconciled kind phase => simp [note]
      | statusPatched => simp [note]
      | cleanedUp kind ok => simp [note]

end Records

namespace Pass

variable {reply : Replies} {past : List Event} {registry : Registry} {limit : Duration}
  {now ns : String} {model : Model}

theorem result_conclude (outcome : Outcome) (past : List Event) :
    (run reply past (conclude model outcome)).2 =
      (afterOutcome outcome).mapError (.backend model.backendKind) := by
  unfold conclude
  cases afterOutcome outcome with
  | error error => rfl
  | ok action => rfl

/-- Behind an evaluation with a new status, the result is that of storing it or of the outcome. -/
theorem result_record_of_needsPatch {evaluation : Evaluation}
    (h : Evaluation.needsPatch model evaluation.status = true) (past : List Event) :
    (run reply past (record limit ns model evaluation)).2 =
      match (run reply (past ++ [.noted (.reconciled model.backendKind evaluation.status.phase)])
        (storeStatus limit ns model evaluation.status)).2 with
      | .error error => .error (.status error)
      | .ok () => (afterOutcome evaluation.outcome).mapError (.backend model.backendKind) := by
  unfold record
  rw [run_bind, run_leave, if_pos h, run_bind]
  dsimp only
  cases (run reply (past ++ [.noted (.reconciled model.backendKind evaluation.status.phase)])
    (storeStatus limit ns model evaluation.status)).2 with
  | error error => rfl
  | ok answer => exact result_conclude _ _

/-- Behind an evaluation with the status that the model carries, it is that of the outcome. -/
theorem result_record_of_carried {evaluation : Evaluation}
    (h : Evaluation.needsPatch model evaluation.status = false) (past : List Event) :
    (run reply past (record limit ns model evaluation)).2 =
      (afterOutcome evaluation.outcome).mapError (.backend model.backendKind) := by
  unfold record
  rw [run_bind, run_leave, if_neg (by simp [h])]
  exact result_conclude _ _

end Pass

namespace ReconcilePass

variable (p : ReconcilePass)

/-! ## What a pass asks to be stored -/

/-- The evaluation of the model of a pass. -/
def evaluation : Evaluation :=
  (run p.reply [] (Evaluation.evaluate p.registry p.model p.now)).2

/-- What has happened when the status is about to be stored. -/
def beforeStoring : List Event :=
  (run p.reply [] (Evaluation.evaluate p.registry p.model p.now)).1 ++
    [.noted (.reconciled p.model.backendKind p.evaluated.phase)]

/-- The reply to the request that stores the evaluated status. -/
def storeReply : Reply Unit :=
  p.reply p.beforeStoring (.applyStatus p.model.id p.evaluated) (some p.limit)

/-- The evaluated status is stored behind the pass: it was before, or the request went well. -/
def IsStored : Prop :=
  p.model.status ≠ some p.evaluated → p.storeReply = .answered ()

theorem evaluation_eq :
    p.evaluation = (p.answers.verdict p.model.backendKind).evaluation p.model p.now := by
  obtain ⟨calls, -, hrun⟩ := Evaluation.run_evaluate_eq p.reply p.registry p.model p.now []
  unfold evaluation
  rw [hrun]
  rfl

variable {p}

theorem IsServed.result_eq (h : p.IsServed) :
    ∃ ns, p.model.id = ⟨ns, p.model.shownName⟩ ∧
      p.result = (run p.reply
        (run p.reply [] (Evaluation.evaluate p.registry p.model p.now)).1
        (Pass.record p.limit ns p.model p.evaluation)).2 := by
  obtain ⟨hns, hcarries, hkept⟩ := h
  obtain ⟨ns, hns⟩ := Option.ne_none_iff_exists'.1 hns
  refine ⟨ns, Model.id_of_ns hns, ?_⟩
  unfold result outcome
  rw [Pass.reconcile_of_served hns hcarries hkept, Pass.apply_eq, run_bind]
  rfl

/-- A pass that has a status to store waits for the reply, and a failure to store it comes before
the outcome. -/
theorem result_of_needsPatch (h : p.IsServed) (hname : p.model.shownName ≠ "")
    (hpatch : Evaluation.needsPatch p.model p.evaluated = true) :
    p.result =
      match p.storeReply.result p.limit with
      | .error error => .error (.status error)
      | .ok () =>
        (Pass.afterOutcome p.evaluation.outcome).mapError (.backend p.model.backendKind) := by
  obtain ⟨ns, hid, hresult⟩ := h.result_eq
  have htarget : (Request.applyStatus ⟨ns, p.model.shownName⟩ p.evaluated).target.name ≠ "" := hname
  have hstore : (run p.reply p.beforeStoring (Pass.storeStatus p.limit ns p.model p.evaluated)).2 =
      p.storeReply.result p.limit := by
    unfold storeReply
    rw [hid]
    exact congrArg Prod.snd (Program.run_request_of_named p.limit htarget)
  rw [hresult, ← hstore]
  exact Pass.result_record_of_needsPatch hpatch _

/-- A status that could not be stored fails the pass. -/
theorem result_of_unstored (h : p.IsServed) (hname : p.model.shownName ≠ "")
    (hpatch : Evaluation.needsPatch p.model p.evaluated = true) {error : BackendError}
    (hreply : p.storeReply.result p.limit = .error error) :
    p.result = .error (.status error) := by
  rw [result_of_needsPatch h hname hpatch, hreply]

/-- Otherwise the outcome of the evaluation decides. -/
theorem result_of_stored (h : p.IsServed) (hname : p.model.shownName ≠ "") (hstored : p.IsStored) :
    p.result = (Pass.afterOutcome p.evaluation.outcome).mapError (.backend p.model.backendKind) := by
  cases hpatch : Evaluation.needsPatch p.model p.evaluated with
  | true =>
      rw [result_of_needsPatch h hname hpatch, hstored (Evaluation.needsPatch_iff.1 hpatch)]
      rfl
  | false =>
      obtain ⟨ns, -, hresult⟩ := h.result_eq
      rw [hresult]
      exact Pass.result_record_of_carried hpatch _

/-! ## What a pass leaves in the records -/

variable (p) in
/-- The records once they have taken up all that a pass notes. -/
def recordsBehind (r : Records) : Records :=
  p.notes.foldl Records.note r

theorem backoff_recordsBehind (p : ReconcilePass) (r : Records) :
    (p.recordsBehind r).backoff =
      if p.settles then r.backoff.reset p.model.id else r.backoff := by
  have hown : ∀ other, .settled other ∈ p.notes → other = p.model.id :=
    fun other hother => ((p.settled_mem_notes_iff other).1 hother).1
  unfold recordsBehind settles
  rw [Records.backoff_foldl_note hown]
  simp only [decide_eq_true_eq]

variable (p) in
/-- The pass leaves all counts of failures as they were. -/
def Keeps : Prop :=
  ∀ r : Records, (p.recordsBehind r).backoff = r.backoff

variable (p) in
/-- The pass leaves no entry for the failures of its model, and the counts of others as they
were. -/
def Clears : Prop :=
  ∀ r : Records, (∀ f ∈ (p.recordsBehind r).backoff.failures, f.id ≠ p.model.id) ∧
    ∀ other, other ≠ p.model.id →
      (p.recordsBehind r).backoff.count other = r.backoff.count other

/-- The pass over a served model settles it unless it fails. -/
theorem settles_iff_of_isServed (h : p.IsServed) :
    p.settles = true ↔ ∃ action, p.result = .ok action := by
  rw [settles_iff]
  unfold Pass.Settles result outcome
  simp [h.ns, h.carries, h.kept]

theorem keeps_of_error (h : p.IsServed) {error : PassError} (hresult : p.result = .error error) :
    p.Keeps := by
  intro r
  have hsettles : ¬ p.settles = true := by
    rw [settles_iff_of_isServed h, hresult]
    simp
  rw [backoff_recordsBehind, if_neg hsettles]

theorem clears_of_ok (h : p.IsServed) {action : Action} (hresult : p.result = .ok action) :
    p.Clears := by
  intro r
  have hsettles : p.settles = true := (settles_iff_of_isServed h).2 ⟨action, hresult⟩
  rw [backoff_recordsBehind, if_pos hsettles]
  constructor
  · intro f hf
    simpa using (List.mem_filter.1 hf).2
  · intro other hother
    rw [Backoff.count_reset, if_neg hother]

/-- With the status stored, an outcome that leads to an action ends the pass well. -/
theorem settled_of_stored (h : p.IsServed) (hname : p.model.shownName ≠ "") (hstored : p.IsStored)
    {action : Action} (houtcome : Pass.afterOutcome p.evaluation.outcome = .ok action) :
    p.result = .ok action ∧ p.Clears := by
  have hresult : p.result = .ok action := by
    rw [result_of_stored h hname hstored, houtcome]
    rfl
  exact ⟨hresult, clears_of_ok h hresult⟩

/-! ## What the answers of the backend come to -/

theorem outcome_of_lacking
    (h : p.registry.get? p.model.backendKind = none ∨
      ∃ error, p.answers.Fails error ∧ error.isNotImplemented = true) :
    p.evaluation.outcome = .unsupported := by
  have hjudged := judged_verdict p.model.backendKind p.answers
  have hphase : (p.answers.verdict p.model.backendKind).outcome.phase = .unsupported := by
    refine hjudged.unsupported_iff.2 (h.imp_left ?_)
    exact (Evaluation.route?_answers_eq_none_iff p.reply p.registry p.model []).2
  rw [p.evaluation_eq, Verdict.outcome_evaluation]
  generalize (p.answers.verdict p.model.backendKind).outcome = outcome at hphase
  cases outcome with
  | unsupported => rfl
  | ready => cases hphase
  | pending => cases hphase
  | failed error => cases hphase

theorem outcome_of_fails {error : BackendError} (h : p.answers.Fails error)
    (herror : error.isNotImplemented = false) : p.evaluation.outcome = .failed error := by
  rw [p.evaluation_eq, Verdict.outcome_evaluation]
  exact (judged_verdict p.model.backendKind p.answers).failed_error h herror

/-- A pass whose evaluation failed fails, whether or not the status is stored. -/
theorem exists_result_of_failed (h : p.IsServed) (hname : p.model.shownName ≠ "")
    {error : BackendError} (hfailed : p.evaluation.outcome = .failed error) :
    ∃ e, p.result = .error e := by
  by_cases hstored : p.IsStored
  · rw [result_of_stored h hname hstored, hfailed]
    exact ⟨_, rfl⟩
  · unfold IsStored at hstored
    push Not at hstored
    obtain ⟨hpatch, hreply⟩ := hstored
    rw [result_of_needsPatch h hname (Evaluation.needsPatch_iff.2 hpatch)]
    cases hresult : p.storeReply.result p.limit with
    | error e => exact ⟨_, rfl⟩
    | ok answer =>
        rw [hfailed]
        exact ⟨_, rfl⟩

end ReconcilePass

/-- What a pass over a served model sends, results in and leaves in the records. -/
structure FollowsOutcome (p : ReconcilePass) : Prop where
  /-- The evaluated status is sent if and only if the model carries another one. -/
  sent : p.ownRequests = if p.model.status = some p.evaluated then []
    else [.applyStatus p.model.id p.evaluated]
  /-- If it could not be stored, the pass fails with the reason, whatever the outcome is. -/
  unstored : p.model.status ≠ some p.evaluated → p.storeReply ≠ .answered () →
    ∃ error, p.storeReply.result p.limit = .error error ∧ p.result = .error (.status error) ∧
      p.Keeps
  ready : p.IsStored → p.evaluation.outcome = .ready →
    p.result = .ok (.requeue (Duration.ofSeconds 300)) ∧ p.Clears
  pending : p.IsStored → p.evaluation.outcome = .pending →
    p.result = .ok (.requeue (Duration.ofSeconds 30)) ∧ p.Clears
  unsupported : p.IsStored → p.evaluation.outcome = .unsupported →
    p.result = .ok .awaitChange ∧ p.Clears
  failed : ∀ error, p.IsStored → p.evaluation.outcome = .failed error →
    p.result = .error (.backend p.model.backendKind error) ∧ p.Keeps
  /-- A model whose backend lacks what was asked of it is not retried once that is stored. -/
  lacking_rests : p.IsStored →
    (p.registry.get? p.model.backendKind = none ∨
      ∃ error, p.answers.Fails error ∧ error.isNotImplemented = true) →
    ∀ r : Records, r.conclude p.model p.result = (.awaitChange, r)
  /-- Any other failure of the backend counts, and is retried after the delay of its count. -/
  failure_retried : ∀ error, p.answers.Fails error → error.isNotImplemented = false →
    ∀ r : Records, ((p.recordsBehind r).conclude p.model p.result).1 =
        .requeue (r.backoff.next p.model.id).1 ∧
      ((p.recordsBehind r).conclude p.model p.result).2.backoff = (r.backoff.next p.model.id).2

/-- The outcome decides in the pass over every served model that has a name. -/
theorem pass_followsOutcome {p : ReconcilePass} (hserved : p.IsServed)
    (hname : p.model.shownName ≠ "") : FollowsOutcome p where
  sent := by
    rcases p.ownRequests_of_isServed hserved with ⟨hown, hpatch | hunnamed⟩ | ⟨hown, hpatch⟩
    · have hcarried : p.model.status = some p.evaluated := by
        by_contra hother
        rw [Evaluation.needsPatch_iff.2 hother] at hpatch
        cases hpatch
      rw [hown, if_pos hcarried]
    · exact absurd hunnamed hname
    · rw [hown, if_neg (Evaluation.needsPatch_iff.1 hpatch)]
  unstored := by
    intro hpatch hreply
    cases hresult : p.storeReply.result p.limit with
    | error error =>
        have herror := ReconcilePass.result_of_unstored hserved hname
          (Evaluation.needsPatch_iff.2 hpatch) hresult
        exact ⟨error, rfl, herror, ReconcilePass.keeps_of_error hserved herror⟩
    | ok answer =>
        cases hstore : p.storeReply with
        | answered value => exact absurd hstore hreply
        | failed error =>
            rw [hstore] at hresult
            cases hresult
        | timedOut =>
            rw [hstore] at hresult
            cases hresult
  ready := by
    intro hstored houtcome
    exact ReconcilePass.settled_of_stored hserved hname hstored (by rw [houtcome]; rfl)
  pending := by
    intro hstored houtcome
    exact ReconcilePass.settled_of_stored hserved hname hstored (by rw [houtcome]; rfl)
  unsupported := by
    intro hstored houtcome
    exact ReconcilePass.settled_of_stored hserved hname hstored (by rw [houtcome]; rfl)
  failed := by
    intro error hstored houtcome
    have hresult := ReconcilePass.result_of_stored hserved hname hstored
    rw [houtcome] at hresult
    exact ⟨hresult, ReconcilePass.keeps_of_error hserved hresult⟩
  lacking_rests := by
    intro hstored hlacking r
    have houtcome := ReconcilePass.outcome_of_lacking hlacking
    obtain ⟨hresult, -⟩ := ReconcilePass.settled_of_stored hserved hname hstored
      (by rw [houtcome]; rfl)
    rw [hresult]
    rfl
  failure_retried := by
    intro error hfails herror r
    obtain ⟨e, hresult⟩ := ReconcilePass.exists_result_of_failed hserved hname
      (ReconcilePass.outcome_of_fails hfails herror)
    have hkeeps := ReconcilePass.keeps_of_error hserved hresult r
    rw [hresult, ← hkeeps]
    exact ⟨rfl, rfl⟩

/-- A pass over a model whose service cannot be read, although its status can be stored. -/
def failingPass : ReconcilePass where
  registry := Pass.registry ⟨"gateway", "istio"⟩ 5
  limit := 5
  now := "2025-01-01T00:00:00Z"
  model := ⟨{ Metadata.blank with
    name := some "opt"
    ns := some "llm"
    finalizers := some ["maas.opendatahub.io/model-cleanup"] }, ⟨"llmisvc", "opt", none⟩, none⟩
  reply
    | _, .applyStatus .., _ => .answered ()
    | _, _, _ => .failed (.refused ⟨"Failure", "no", "InternalError", 500⟩)

/-- The failure is stored, and retried as the first one. -/
theorem failingPass_is_retried :
    failingPass.IsServed ∧ failingPass.model.shownName ≠ "" ∧
      failingPass.ownRequests = [.applyStatus ⟨"llm", "opt"⟩ failingPass.evaluated] ∧
      ((failingPass.recordsBehind .start).conclude failingPass.model failingPass.result).1 =
        .requeue (Duration.ofSeconds 1) := by
  have hserved : failingPass.IsServed := ⟨by simp [failingPass], by decide, rfl⟩
  have hname : failingPass.model.shownName ≠ "" := by decide
  have hfollows := pass_followsOutcome hserved hname
  have hfails : failingPass.answers.Fails
      (.request (.refused ⟨"Failure", "no", "InternalError", 500⟩)) := Or.inl rfl
  have hother : failingPass.model.status ≠ some failingPass.evaluated := by simp [failingPass]
  have hsent := hfollows.sent
  rw [if_neg hother] at hsent
  exact ⟨hserved, hname, hsent, (hfollows.failure_retried _ hfails rfl Records.start).1⟩

end ModelGate

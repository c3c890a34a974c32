import Mathlib
import ModelGate.Proofs.Cluster.StatusRecord
import ModelGate.Proofs.Reconcile.FinalizerSafety
import ModelGate.Proofs.Reconcile.Retries
import ModelGate.Proofs.Reconcile.StatusConsistency

/-!
# A status is stored once

A model that carries the status of an evaluation gets the same status from every later evaluation
with the same answers (`Verdict.status_evaluation_of_carried`): the ready condition keeps its
transition time, and nothing else in a status depends on the clock.  What an evaluation gives back
survives being stored (`Verdict.isStorable_evaluation`), so the next pass finds what it would send.

`passes_converge` draws the conclusion for passes over a model as the API server keeps it: as long
as the answers stay the same, at most one status is sent, however many passes there are.
-/

namespace ModelGate

open Program (Event Replies requests run run_pure)

namespace Evaluation

/-! ## Replacing the ready condition again -/

variable {condition : Condition}

theorem replaceReady_replaceReady (hcondition : isReadyCondition condition = true)
    (conditions : List Condition) :
    replaceReady condition (replaceReady condition conditions) =
      replaceReady condition conditions := by
  have htype : condition.type = readyType := by simpa [isReadyCondition] using hcondition
  induction conditions with
  | nil => simp [replaceReady, htype]
  | cons c rest ih =>
      by_cases hc : c.type = readyType
      · simp [replaceReady, hc, htype]
      · simp [replaceReady, hc, ih]

theorem eq_or_mem_of_mem_replaceReady {conditions : List Condition} {c : Condition}
    (h : c ∈ replaceReady condition conditions) : c = condition ∨ c ∈ conditions := by
  induction conditions with
  | nil => simpa [replaceReady] using h
  | cons d rest ih =>
      unfold replaceReady at h
      split at h
      · rcases List.mem_cons.1 h with hnew | hrest
        · exact Or.inl hnew
        · exact Or.inr (List.mem_cons_of_mem d hrest)
      · rcases List.mem_cons.1 h with rfl | hrest
        · exact Or.inr List.mem_cons_self
        · exact (ih hrest).imp_right (List.mem_cons_of_mem d)

theorem isSome_transitionTime (former : Option Condition) (value reason now : String) :
    (transitionTime former value reason now).isSome = true := by
  unfold transitionTime
  split
  · split
    · next h => exact h.2.2
    · rfl
  · rfl

end Evaluation

/-! ## Evaluating a model that carries its status -/

namespace Verdict

variable {v : Verdict} {model carrier : Model} {now later : String}

/-- A ready condition that was set before is set again as it was, at any time. -/
theorem condition_of_former (hgeneration : carrier.metadata.generation = model.metadata.generation)
    (hformer : (Evaluation.carried carrier).find? Evaluation.isReadyCondition =
      some (v.condition model now)) :
    v.condition carrier later = v.condition model now := by
  have htime : Evaluation.transitionTime
      ((Evaluation.carried carrier).find? (·.type == Evaluation.readyType))
      (if v.outcome = .ready then "True" else "False") v.reason later =
      (v.condition model now).lastTransitionTime := by
    change Evaluation.transitionTime
      ((Evaluation.carried carrier).find? Evaluation.isReadyCondition) _ _ _ = _
    rw [hformer]
    -- The status and the reason are the same, and there is a time to keep.
    exact if_pos ⟨rfl, rfl, Evaluation.isSome_transitionTime _ _ _ _⟩
  unfold condition at htime ⊢
  rw [htime, hgeneration]

theorem bareStatus_eq_of_generation
    (hgeneration : carrier.metadata.generation = model.metadata.generation) :
    v.bareStatus carrier =
      { v.bareStatus model with conditions := Evaluation.carried carrier } := by
  unfold bareStatus Evaluation.base
  rw [hgeneration]
  cases v.route <;> rfl

theorem status_evaluation_eq (v : Verdict) (model : Model) (now : String) :
    (v.evaluation model now).status = { v.bareStatus model with
      conditions := Evaluation.replaceReady (v.condition model now)
        (Evaluation.carried model) } := by
  rw [← conditions_evaluation]
  rfl

/-- The status that a verdict gave a model is the one that it gives a model that carries it. -/
theorem status_evaluation_of_carried
    (hgeneration : carrier.metadata.generation = model.metadata.generation)
    (hstatus : carrier.status = some (v.evaluation model now).status) (later : String) :
    (v.evaluation carrier later).status = (v.evaluation model now).status := by
  have hready := v.isReadyCondition_condition model now
  have hcarried : Evaluation.carried carrier =
      Evaluation.replaceReady (v.condition model now) (Evaluation.carried model) := by
    unfold Evaluation.carried
    rw [hstatus]
    exact v.conditions_evaluation model now
  have hcondition : v.condition carrier later = v.condition model now :=
    condition_of_former hgeneration (by rw [hcarried, Evaluation.find?_replaceReady hready])
  rw [status_evaluation_eq, status_evaluation_eq, bareStatus_eq_of_generation hgeneration,
    hcondition, hcarried, Evaluation.replaceReady_replaceReady hready]

/-- A status has the generation of the model and conditions that it carried or got. -/
theorem isStorable_evaluation (v : Verdict) (now : String)
    (hgeneration : IsGeneration model.metadata.generation)
    (hcarried : ∀ s, model.status = some s → s.IsStorable) :
    (v.evaluation model now).status.IsStorable where
  observedGeneration := by
    have hobserved : (v.evaluation model now).status.observedGeneration =
        model.metadata.generation := v.observedGeneration_bareStatus model
    rw [hobserved]
    exact hgeneration
  conditions := by
    intro c hc
    rw [conditions_evaluation] at hc
    rcases Evaluation.eq_or_mem_of_mem_replaceReady hc with rfl | hmem
    · exact hgeneration
    · unfold Evaluation.carried at hmem
      cases hstatus : model.status with
      | none =>
          rw [hstatus] at hmem
          cases hmem
      | some s =>
          rw [hstatus] at hmem
          exact (hcarried s hstatus).conditions c hmem

end Verdict

/-! ## The statuses that passes send -/

namespace Request

/-- The status that a request stores. -/
def status? : Request → Option ModelStatus
  | applyStatus _ status => some status
  | _ => none

end Request

namespace Pass

theorem status?_patchRequests (id : ObjectId) (patch : FinalizerPatch) :
    (ownRequests false (requests (patchRequests id patch))).filterMap Request.status? = [] := by
  unfold patchRequests
  split <;> rfl

end Pass

namespace ReconcilePass

variable (p : ReconcilePass)

/-- What the backend answers when the model of a pass is evaluated. -/
def answers : BackendAnswers :=
  Evaluation.answers p.reply p.registry p.model []

/-- The status that the evaluation of the model gives back. -/
def evaluated : ModelStatus :=
  (run p.reply [] (Evaluation.evaluate p.registry p.model p.now)).2.status

/-- The requests that the controller itself sends. -/
def ownRequests : List Request :=
  Pass.ownRequests false p.outcome.1

/-- The statuses that the controller sends to be stored. -/
def sentStatuses : List ModelStatus :=
  p.ownRequests.filterMap Request.status?

theorem evaluated_eq :
    p.evaluated = ((p.answers.verdict p.model.backendKind).evaluation p.model p.now).status := by
  obtain ⟨calls, -, hrun⟩ := Evaluation.run_evaluate_eq p.reply p.registry p.model p.now []
  unfold evaluated
  rw [hrun]
  rfl

/-- A model is evaluated in its passes if it is in a namespace, carries the finalizer and is not
being deleted. -/
structure IsServed : Prop where
  ns : p.model.metadata.ns ≠ none
  carries : Pass.Carries p.model
  kept : p.model.metadata.isDeleting = false

/-- The pass over a served model sends nothing but the evaluated status: if the model carries
another one, and has a name. -/
theorem ownRequests_of_isServed (h : p.IsServed) :
    (p.ownRequests = [] ∧
      (Evaluation.needsPatch p.model p.evaluated = false ∨ p.model.shownName = "")) ∨
    (p.ownRequests = [.applyStatus p.model.id p.evaluated] ∧
      Evaluation.needsPatch p.model p.evaluated = true) := by
  obtain ⟨hns, hcarries, hkept⟩ := h
  obtain ⟨ns, hns⟩ := Option.ne_none_iff_exists'.1 hns
  obtain ⟨calls, store, ending, hcalls, hstore, hending, hrun⟩ :=
    Pass.run_apply p.reply p.registry p.limit p.now ns p.model []
  have hown : p.ownRequests = Pass.ownRequests false (store ++ ending) := by
    unfold ownRequests outcome
    rw [Pass.reconcile_of_served hns hcarries hkept, hrun, List.nil_append,
      Pass.ownRequests_calls hcalls]
  generalize (run p.reply [] (Pass.apply p.registry p.limit p.now ns p.model)).2 = result
    at hending
  rw [hown, Model.id_of_ns hns]
  cases hstore with
  | unneeded h => cases hending <;> exact Or.inl ⟨rfl, Or.inl h⟩
  | unnamed h => cases hending <;> exact Or.inl ⟨rfl, Or.inr h⟩
  | refused h => cases hending <;> exact Or.inr ⟨rfl, h⟩
  | stored h => cases hending <;> exact Or.inr ⟨rfl, h⟩

/-- The pass over a model that is not served sends no status. -/
theorem sentStatuses_of_not_isServed (h : ¬ p.IsServed) : p.sentStatuses = [] := by
  obtain ⟨calls, hcalls, hrun⟩ := Pass.run_removeRoutes p.reply p.registry p.model []
  have htrace := Pass.passTrace_reconcile p.reply p.registry p.limit p.now p.model
  unfold sentStatuses ownRequests outcome
  generalize (run p.reply [] (Pass.reconcile p.registry p.limit p.now p.model)).1 = events
    at htrace
  cases htrace with
  | idle => rfl
  | served hns hcarries hdeleting => exact absurd ⟨by simp [hns], hcarries, hdeleting⟩ h
  | added hns hname hcarries hdeleting => exact Pass.status?_patchRequests _ _
  | stuck hns hcarries hdeleting hremoval =>
      rw [hrun, List.nil_append, hcalls.ownRequests_append]
      rfl
  | removed hns hname hcarries hdeleting hremoval =>
      rw [hrun, List.nil_append, hcalls.ownRequests_append]
      exact Pass.status?_patchRequests _ _

/-- A pass sends at most one status: the evaluated one, if the model carries another. -/
theorem sentStatuses_eq :
    p.sentStatuses = [] ∨
      (p.sentStatuses = [p.evaluated] ∧ Evaluation.needsPatch p.model p.evaluated = true) := by
  by_cases hserved : p.IsServed
  · unfold sentStatuses
    rcases p.ownRequests_of_isServed hserved with ⟨hown, -⟩ | ⟨hown, hpatch⟩
    · exact Or.inl (by rw [hown]; rfl)
    · exact Or.inr ⟨by rw [hown]; rfl, hpatch⟩
  · exact Or.inl (p.sentStatuses_of_not_isServed hserved)

end ReconcilePass

/-! ## Passes over a stored model -/

/-- A pass over a model as the API server keeps it. -/
structure StoredPass extends ReconcilePass where
  members : List (String × Json)
  read : Model.ofJson? (.obj members) = some model

namespace StoredPass

/-- The object behind a pass: the statuses that were sent are stored as they were sent. -/
def stored (p : StoredPass) : List (String × Json) :=
  p.sentStatuses.foldl (fun members s => Json.setMember "status" s.toJson members) p.members

/-- A pass over the same version of a model, whose status nobody else has changed since. -/
structure Follows (p next : StoredPass) : Prop where
  backend : next.model.backend = p.model.backend
  generation : next.model.metadata.generation = p.model.metadata.generation
  status : next.members.lookup "status" = p.stored.lookup "status"

variable {p next : StoredPass} {a : BackendAnswers}

theorem isStorable_evaluated (p : StoredPass) : p.evaluated.IsStorable := by
  rw [p.evaluated_eq]
  exact Verdict.isStorable_evaluation _ p.now (Model.isGeneration_of_ofJson? p.read)
    fun s hs => Model.isStorable_of_ofJson? p.read hs

/-- The object behind a pass can be read: as the model with the status that was sent, if one was. -/
theorem ofJson?_stored (p : StoredPass) :
    Model.ofJson? (.obj p.stored) =
      some { p.model with status := p.sentStatuses.head?.or p.model.status } := by
  unfold stored
  rcases p.sentStatuses_eq with hsent | ⟨hsent, -⟩
  · rw [hsent]
    exact p.read
  · rw [hsent]
    exact Model.ofJson?_setStatus p.read p.isStorable_evaluated

/-- The status that a model carries is what its object says. -/
theorem status_eq_of_lookup {members : List (String × Json)} {model : Model}
    (h : Model.ofJson? (.obj members) = some model)
    (hlookup : next.members.lookup "status" = members.lookup "status") :
    next.model.status = model.status := by
  obtain ⟨-, -, hstatus⟩ := Model.exists_of_ofJson? h
  obtain ⟨-, -, hnext⟩ := Model.exists_of_ofJson? next.read
  have hsame : Json.Record.optional ⟨next.members, true⟩ "status" ModelStatus.ofJson? =
      Json.Record.optional ⟨members, true⟩ "status" ModelStatus.ofJson? := by
    unfold Json.Record.optional
    rw [hlookup]
  rw [hsame, hstatus] at hnext
  exact (Option.some.inj hnext).symm

theorem Follows.status_eq (h : p.Follows next) :
    next.model.status = p.sentStatuses.head?.or p.model.status :=
  status_eq_of_lookup p.ofJson?_stored h.status

/-- The model of a pass carries what some evaluation with the given answers gave back. -/
def IsSettled (p : StoredPass) (a : BackendAnswers) : Prop :=
  ∃ (model : Model) (now : String),
    p.model.metadata.generation = model.metadata.generation ∧
      p.model.status = some ((a.verdict p.model.backendKind).evaluation model now).status

theorem IsSettled.evaluated_eq (h : p.IsSettled a) (hanswers : p.answers = a) :
    p.model.status = some p.evaluated := by
  obtain ⟨model, now, hgeneration, hstatus⟩ := h
  rw [p.toReconcilePass.evaluated_eq, hanswers,
    Verdict.status_evaluation_of_carried hgeneration hstatus p.now]
  exact hstatus

theorem IsSettled.needsPatch_eq (h : p.IsSettled a) (hanswers : p.answers = a) :
    Evaluation.needsPatch p.model p.evaluated = false := by
  unfold Evaluation.needsPatch
  rw [h.evaluated_eq hanswers]
  simp

theorem IsSettled.sentStatuses_eq (h : p.IsSettled a) (hanswers : p.IsServed → p.answers = a) :
    p.sentStatuses = [] := by
  by_cases hserved : p.IsServed
  · rcases p.toReconcilePass.sentStatuses_eq with hsent | ⟨-, hpatch⟩
    · exact hsent
    · rw [h.needsPatch_eq (hanswers hserved)] at hpatch
      cases hpatch
  · exact p.sentStatuses_of_not_isServed hserved

theorem Follows.backendKind_eq (h : p.Follows next) :
    next.model.backendKind = p.model.backendKind :=
  congrArg ModelReference.kind h.backend

/-- What is settled stays settled behind a pass that sends nothing. -/
theorem IsSettled.follows (hsettled : p.IsSettled a) (h : p.Follows next)
    (hsent : p.sentStatuses = []) : next.IsSettled a := by
  obtain ⟨model, now, hgeneration, hstatus⟩ := hsettled
  refine ⟨model, now, h.generation.trans hgeneration, ?_⟩
  rw [h.status_eq, hsent, h.backendKind_eq]
  exact hstatus

/-- A pass that leaves the evaluated status behind settles the model. -/
theorem Follows.isSettled (h : p.Follows next) (hanswers : p.answers = a)
    (hcarried : p.sentStatuses.head?.or p.model.status = some p.evaluated) : next.IsSettled a := by
  refine ⟨p.model, p.now, h.generation, ?_⟩
  rw [h.status_eq, hcarried, h.backendKind_eq, ← hanswers, p.evaluated_eq]

/-- Once the model is settled no pass sends a status again. -/
theorem sentStatuses_of_isSettled {history : List StoredPass}
    (hchain : (p :: history).IsChain Follows)
    (hanswers : ∀ q ∈ p :: history, q.IsServed → q.answers = a) (hsettled : p.IsSettled a) :
    (p :: history).flatMap (·.sentStatuses) = [] := by
  induction history generalizing p with
  | nil =>
      rw [List.flatMap_singleton]
      exact hsettled.sentStatuses_eq (hanswers p List.mem_cons_self)
  | cons next rest ih =>
      obtain ⟨hfollows, hrest⟩ := List.isChain_cons_cons.1 hchain
      have hsent := hsettled.sentStatuses_eq (hanswers p List.mem_cons_self)
      rw [List.flatMap_cons, hsent, List.nil_append]
      exact ih hrest (fun q hq => hanswers q (List.mem_cons_of_mem p hq))
        (hsettled.follows hfollows hsent)

theorem length_sentStatuses_le_one {history : List StoredPass}
    (hchain : history.IsChain Follows) (hanswers : ∀ q ∈ history, q.IsServed → q.answers = a) :
    (history.flatMap (·.sentStatuses)).length ≤ 1 := by
  induction history with
  | nil => simp
  | cons p rest ih =>
      have hlater : ∀ q ∈ rest, q.IsServed → q.answers = a :=
        fun q hq => hanswers q (List.mem_cons_of_mem p hq)
      have hrest := ih hchain.tail hlater
      rw [List.flatMap_cons]
      by_cases hserved : p.IsServed
      · rcases p.sentStatuses_eq with hsent | ⟨hsent, -⟩
        · rw [hsent]
          exact hrest
        · -- The status is stored now, so the passes behind this one find it.
          have hnone : rest.flatMap (·.sentStatuses) = [] := by
            cases rest with
            | nil => rfl
            | cons next rest =>
                obtain ⟨hfollows, hchain⟩ := List.isChain_cons_cons.1 hchain
                refine sentStatuses_of_isSettled hchain hlater
                  (hfollows.isSettled (hanswers p List.mem_cons_self hserved) ?_)
                rw [hsent]
                rfl
          rw [hsent, hnone]
          rfl
      · rw [p.sentStatuses_of_not_isServed hserved]
        exact hrest

/-- A pass over the very object that a pass left behind evaluates to the same status, at any time,
and has nothing to send. -/
theorem evaluated_of_members_eq_stored (hserved : p.IsServed) (hname : p.model.shownName ≠ "")
    (hanswers : next.answers = p.answers) (hmembers : next.members = p.stored) :
    next.evaluated = p.evaluated ∧ next.ownRequests = [] := by
  have hmodel : next.model = { p.model with status := p.sentStatuses.head?.or p.model.status } := by
    have hread := next.read
    rw [hmembers, p.ofJson?_stored] at hread
    exact (Option.some.inj hread).symm
  have hfollows : p.Follows next := ⟨by rw [hmodel], by rw [hmodel], by rw [hmembers]⟩
  -- Whether or not it was sent, the model carries the evaluated status now.
  have hcarried : p.sentStatuses.head?.or p.model.status = some p.evaluated := by
    unfold ReconcilePass.sentStatuses
    rcases p.ownRequests_of_isServed hserved with ⟨hown, hpatch | hunnamed⟩ | ⟨hown, -⟩
    · rw [hown]
      simpa [Evaluation.needsPatch] using hpatch
    · exact absurd hunnamed hname
    · rw [hown]
      rfl
  have hsettled := hfollows.isSettled rfl hcarried
  have hnext : next.IsServed := by
    obtain ⟨hns, hcarries, hkept⟩ := hserved
    exact ⟨by rw [hmodel]; exact hns, by rw [hmodel]; exact hcarries, by rw [hmodel]; exact hkept⟩
  constructor
  · have hstatus := hsettled.evaluated_eq hanswers
    rw [hfollows.status_eq, hcarried] at hstatus
    exact (Option.some.inj hstatus).symm
  · rcases next.ownRequests_of_isServed hnext with ⟨hown, -⟩ | ⟨-, hpatch⟩
    · exact hown
    · rw [hsettled.needsPatch_eq hanswers] at hpatch
      cases hpatch

end StoredPass

/-- What passes over one version of a model come to while its backend gives the same answers. -/
structure Converges (a : BackendAnswers) : Prop where
  /-- What a pass leaves behind can be read again. -/
  readable : ∀ p : StoredPass,
    Model.ofJson? (.obj p.stored) =
      some { p.model with status := p.sentStatuses.head?.or p.model.status }
  /-- The next pass over it finds the status that it evaluates to, and sends nothing. -/
  repeated : ∀ p next : StoredPass, p.IsServed → p.model.shownName ≠ "" → p.answers = a →
    next.answers = a → next.members = p.stored →
    next.evaluated = p.evaluated ∧ next.ownRequests = []
  /-- However many passes there are, at most one status is sent. -/
  sent_once : ∀ history : List StoredPass, history.IsChain StoredPass.Follows →
    (∀ p ∈ history, p.IsServed → p.answers = a) → (history.flatMap (·.sentStatuses)).length ≤ 1

/-- Whatever status a model carried at first, and whenever it is looked at. -/
theorem passes_converge (a : BackendAnswers) : Converges a where
  readable := fun p => p.ofJson?_stored
  repeated := fun _ _ hserved hname hp hnext hmembers =>
    StoredPass.evaluated_of_members_eq_stored hserved hname (hnext.trans hp.symm) hmembers
  sent_once := fun _ hchain hanswers => StoredPass.length_sentStatuses_le_one hchain hanswers

/-- A pass over a model that carries two ready conditions and the route of a former backend. -/
def outdatedPass : StoredPass where
  registry := .empty
  limit := 5
  now := "2025-01-01T00:00:00Z"
  model := ⟨{ Metadata.blank with
    name := some "opt"
    ns := some "llm"
    generation := some 2
    finalizers := some ["maas.opendatahub.io/model-cleanup"] }, ⟨"ExternalModel", "opt", none⟩,
    some { ModelStatus.blank with
      phase := some .ready
      routeName := some "opt-route"
      conditions := [⟨"Ready", "True", "Ready", "", none, none⟩,
        ⟨"Ready", "False", "Old", "", none, none⟩] }⟩
  reply := fun _ _ _ => .timedOut
  members := [
    ("metadata", .obj [("name", .str "opt"), ("namespace", .str "llm"), ("generation", .int 2),
      ("finalizers", .arr [.str "maas.opendatahub.io/model-cleanup"])]),
    ("spec", .obj [("modelRef", .obj [("kind", .str "ExternalModel"), ("name", .str "opt")])]),
    ("status", .obj [("phase", .str "Ready"), ("routeName", .str "opt-route"),
      ("conditions", .arr [
        .obj [("type", .str "Ready"), ("status", .str "True"), ("reason", .str "Ready")],
        .obj [("type", .str "Ready"), ("status", .str "False"), ("reason", .str "Old")]])])]
  read := by rfl

/-- A pass over what that one leaves behind, at another time. -/
def settledPass : StoredPass where
  registry := .empty
  limit := 5
  now := "2025-01-02T00:00:00Z"
  model := { outdatedPass.model with
    status := outdatedPass.sentStatuses.head?.or outdatedPass.model.status }
  reply := fun _ _ _ => .timedOut
  members := outdatedPass.stored
  read := outdatedPass.ofJson?_stored

/-- The first pass sends a status, the second one nothing. -/
theorem outdated_is_stored_once :
    outdatedPass.sentStatuses.length = 1 ∧ settledPass.ownRequests = [] ∧
      ([outdatedPass, settledPass].flatMap (·.sentStatuses)).length ≤ 1 := by
  have hserved : outdatedPass.IsServed := ⟨by simp [outdatedPass], by decide, rfl⟩
  have hanswers : ∀ p ∈ [outdatedPass, settledPass], p.IsServed → p.answers = .unregistered := by
    intro p hp _
    simp only [List.mem_cons, List.not_mem_nil, or_false] at hp
    rcases hp with rfl | rfl <;> rfl
  have hfollows : outdatedPass.Follows settledPass := ⟨rfl, rfl, rfl⟩
  refine ⟨?_, ?_, ?_⟩
  · cbv
  · exact ((passes_converge .unregistered).repeated outdatedPass settledPass hserved (by decide)
      rfl rfl rfl).2
  · exact (passes_converge .unregistered).sent_once _
      (List.isChain_cons_cons.2 ⟨hfollows, .singleton _⟩) hanswers

end ModelGate

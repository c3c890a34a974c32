import Mathlib
import ModelGate.Proofs.Reconcile.StatusConsistency
import ModelGate.Time.Calendar

/-!
# The history of a model's conditions

A model is evaluated again and again, and every time it carries the status that the evaluation
before gave it.  Meanwhile its generation and its backend may change, and the backend may answer
anything.

An evaluation touches one condition only, the ready one, and gives it a new transition time if its
status or its reason changes or if it had none.  So the transition time is where the current
stretch of evaluations with one status and one reason begins (`StretchBegins`), and a stretch that
reaches back to the start keeps the time that it had there.
-/

namespace ModelGate

open Program (Event Replies run)

namespace Evaluation

/-! ## The place of the ready condition -/

variable {condition former : Condition} {conditions before after : List Condition}

theorem replaceReady_append_cons (hbefore : ∀ c ∈ before, ¬ isReadyCondition c = true)
    (hformer : isReadyCondition former = true) :
    replaceReady condition (before ++ former :: after) = before ++ condition :: after := by
  induction before with
  | nil =>
      have htype : former.type = readyType := by simpa [isReadyCondition] using hformer
      exact if_pos htype
  | cons c rest ih =>
      have htype : ¬ c.type = readyType := by
        simpa [isReadyCondition] using hbefore c List.mem_cons_self
      rw [List.cons_append, replaceReady, if_neg htype,
        ih fun d hd => hbefore d (List.mem_cons_of_mem c hd), List.cons_append]

theorem replaceReady_eq_append (hnone : ∀ c ∈ conditions, ¬ isReadyCondition c = true) :
    replaceReady condition conditions = conditions ++ [condition] := by
  induction conditions with
  | nil => rfl
  | cons c rest ih =>
      have htype : ¬ c.type = readyType := by
        simpa [isReadyCondition] using hnone c List.mem_cons_self
      rw [replaceReady, if_neg htype, ih fun d hd => hnone d (List.mem_cons_of_mem c hd),
        List.cons_append]

end Evaluation

open Evaluation (isReadyCondition isOtherCondition replaceReady transitionTime)

/-! ## Evaluating one model again and again -/

/-- What an evaluation of a model meets, and when it takes place. -/
structure EvaluationStep where
  registry : Registry
  reply : Replies
  past : List Event
  metadata : Metadata
  backend : ModelReference
  /-- The time in nanoseconds since the start of 1970. -/
  time : Int

/-- The conditions of a status, if there is one. -/
def conditionsOf (status : Option ModelStatus) : List Condition :=
  status.elim [] (·.conditions)

/-- The ready condition of a status. -/
def readyOf (status : Option ModelStatus) : Option Condition :=
  (conditionsOf status).find? isReadyCondition

/-- The status and the reason of the ready condition. -/
def standing (status : Option ModelStatus) : Option (String × String) :=
  (readyOf status).map fun c => (c.status, c.reason)

/-- The time of the last transition of the ready condition. -/
def readySince (status : Option ModelStatus) : Option String :=
  (readyOf status).bind (·.lastTransitionTime)

namespace EvaluationStep

variable (e : EvaluationStep) (status : Option ModelStatus)

/-- The time of an evaluation in UTC, without the fraction of the second. -/
def timestamp : String :=
  Calendar.timestamp (e.time / 1000000000)

/-- The evaluation of the model when it carries a status. -/
def evaluation : Evaluation :=
  (run e.reply e.past
    (Evaluation.evaluate e.registry ⟨e.metadata, e.backend, status⟩ e.timestamp)).2

/-- The status that the model carries behind the evaluation. -/
def stored : Option ModelStatus :=
  some (e.evaluation status).status

/-- All that an evaluation does to the conditions. -/
theorem conditionsOf_stored :
    ∃ c, isReadyCondition c = true ∧
      c.lastTransitionTime = transitionTime (readyOf status) c.status c.reason e.timestamp ∧
      conditionsOf (e.stored status) = replaceReady c (conditionsOf status) := by
  obtain ⟨calls, -, hrun⟩ := Evaluation.run_evaluate_eq e.reply e.registry
    ⟨e.metadata, e.backend, status⟩ e.timestamp e.past
  generalize (Evaluation.answers e.reply e.registry ⟨e.metadata, e.backend, status⟩
    e.past).verdict _ = v at hrun
  refine ⟨v.condition ⟨e.metadata, e.backend, status⟩ e.timestamp,
    v.isReadyCondition_condition _ _, rfl, ?_⟩
  change (e.evaluation status).status.conditions = _
  unfold evaluation
  rw [hrun]
  exact v.conditions_evaluation _ _

/-- The new ready condition and its time. -/
theorem readyOf_stored :
    ∃ c, readyOf (e.stored status) = some c ∧
      c.lastTransitionTime = transitionTime (readyOf status) c.status c.reason e.timestamp := by
  obtain ⟨c, hready, htime, hconditions⟩ := e.conditionsOf_stored status
  refine ⟨c, ?_, htime⟩
  unfold readyOf
  rw [hconditions, Evaluation.find?_replaceReady hready]

variable {e status}

theorem filter_isOtherCondition_stored :
    (conditionsOf (e.stored status)).filter isOtherCondition =
      (conditionsOf status).filter isOtherCondition := by
  obtain ⟨c, hready, -, hconditions⟩ := e.conditionsOf_stored status
  rw [hconditions, Evaluation.filter_isOtherCondition_replaceReady hready]

theorem filter_isReadyCondition_stored
    (h : ((conditionsOf status).filter isReadyCondition).length ≤ 1) :
    ∃ c, (conditionsOf (e.stored status)).filter isReadyCondition = [c] := by
  obtain ⟨c, hready, -, hconditions⟩ := e.conditionsOf_stored status
  rw [hconditions]
  exact ⟨c, Evaluation.filter_isReadyCondition_replaceReady hready h⟩

theorem conditionsOf_stored_in_place
    (h : ((conditionsOf status).filter isReadyCondition).length ≤ 1) {before after : List Condition}
    {former : Condition} (hconditions : conditionsOf status = before ++ former :: after)
    (hformer : isReadyCondition former = true) :
    ∃ c, isReadyCondition c = true ∧ conditionsOf (e.stored status) = before ++ c :: after := by
  obtain ⟨c, hready, -, hstored⟩ := e.conditionsOf_stored status
  -- There is no room for another ready condition in front of the former one.
  have hbefore : ∀ d ∈ before, ¬ isReadyCondition d = true := by
    rw [hconditions, List.filter_append, List.filter_cons_of_pos hformer, List.length_append,
      List.length_cons] at h
    exact List.filter_eq_nil_iff.1 (List.length_eq_zero_iff.1 (by omega))
  refine ⟨c, hready, ?_⟩
  rw [hstored, hconditions, Evaluation.replaceReady_append_cons hbefore hformer]

theorem conditionsOf_stored_at_end
    (hnone : ∀ c ∈ conditionsOf status, ¬ isReadyCondition c = true) :
    ∃ c, isReadyCondition c = true ∧ conditionsOf (e.stored status) = conditionsOf status ++ [c] := by
  obtain ⟨c, hready, -, hstored⟩ := e.conditionsOf_stored status
  exact ⟨c, hready, by rw [hstored, Evaluation.replaceReady_eq_append hnone]⟩

/-- As long as the status and the reason stay, so does the time, if there is one. -/
theorem readySince_stored_of_same (h : standing (e.stored status) = standing status) :
    readySince (e.stored status) = some ((readySince status).getD e.timestamp) := by
  obtain ⟨c, hstored, htime⟩ := e.readyOf_stored status
  unfold standing at h
  unfold readySince
  rw [hstored] at h ⊢
  cases hformer : readyOf status with
  | none =>
      rw [hformer] at h
      cases h
  | some former =>
      rw [hformer] at h htime
      obtain ⟨hstatus, hreason⟩ := Prod.mk.inj (Option.some.inj h)
      cases hsince : former.lastTransitionTime with
      | none => simpa [transitionTime, hsince] using htime
      | some since => simpa [transitionTime, hsince, hstatus, hreason] using htime

/-- A new status or a new reason takes the time of the evaluation. -/
theorem readySince_stored_of_other (h : standing (e.stored status) ≠ standing status) :
    readySince (e.stored status) = some e.timestamp := by
  obtain ⟨c, hstored, htime⟩ := e.readyOf_stored status
  unfold standing at h
  unfold readySince
  rw [hstored] at h ⊢
  cases hformer : readyOf status with
  | none =>
      rw [hformer] at htime
      exact htime
  | some former =>
      rw [hformer] at h htime
      have hother : ¬ (former.status = c.status ∧ former.reason = c.reason ∧
          former.lastTransitionTime.isSome = true) := by
        rintro ⟨hstatus, hreason, -⟩
        exact h (by rw [Option.map_some, Option.map_some, hstatus, hreason])
      exact htime.trans (if_neg hother)

end EvaluationStep

/-- The status of a model that has been evaluated some times. -/
def statusAfter (start : Option ModelStatus) (steps : ℕ → EvaluationStep) : ℕ → Option ModelStatus
  | 0 => start
  | n + 1 => (steps n).stored (statusAfter start steps n)

/-- The unbroken stretch of equal values that a sequence has got into begins at an index. -/
structure StretchBegins {α : Type} (f : ℕ → α) (n i : ℕ) : Prop where
  le : i ≤ n
  unbroken : ∀ j, i ≤ j → j ≤ n → f j = f n
  broken_before : ∀ k, i = k + 1 → f k ≠ f n

namespace StretchBegins

variable {α : Type} {f : ℕ → α} {n i i' : ℕ}

theorem le_of_unbroken (h : StretchBegins f n i) (h' : StretchBegins f n i') : i ≤ i' := by
  by_contra hlt
  obtain ⟨k, rfl⟩ := Nat.exists_eq_add_one_of_ne_zero (show i ≠ 0 by omega)
  have hle := h.le
  exact h.broken_before k rfl (h'.unbroken k (by omega) (by omega))

/-- A stretch goes on, or it begins anew. -/
theorem of_succ (h : StretchBegins f (n + 1) i) :
    (f (n + 1) = f n ∧ StretchBegins f n i) ∨ (f (n + 1) ≠ f n ∧ i = n + 1) := by
  rcases Nat.lt_or_eq_of_le h.le with hlt | rfl
  · have hsame : f n = f (n + 1) := h.unbroken n (by omega) (by omega)
    refine Or.inl ⟨hsame.symm, by omega, fun j hij hj => ?_, fun k hk => ?_⟩
    · rw [hsame]
      exact h.unbroken j hij (by omega)
    · rw [hsame]
      exact h.broken_before k hk
  · exact Or.inr ⟨(h.broken_before n rfl).symm, rfl⟩

theorem succ_of_same (h : StretchBegins f n i) (hsame : f (n + 1) = f n) :
    StretchBegins f (n + 1) i where
  le := Nat.le_succ_of_le h.le
  unbroken := by
    intro j hij hj
    rcases Nat.lt_or_eq_of_le hj with hlt | rfl
    · rw [hsame]
      exact h.unbroken j hij (by omega)
    · rfl
  broken_before := by
    rw [hsame]
    exact h.broken_before

theorem succ_of_other (hother : f (n + 1) ≠ f n) : StretchBegins f (n + 1) (n + 1) where
  le := le_rfl
  unbroken := fun j hj hj' => by rw [Nat.le_antisymm hj' hj]
  broken_before := by
    intro k hk
    obtain rfl : n = k := Nat.succ.inj hk
    exact hother.symm

theorem existsUnique (f : ℕ → α) (n : ℕ) : ∃! i, StretchBegins f n i := by
  have hexists : ∃ i, StretchBegins f n i := by
    induction n with
    | zero => exact ⟨0, le_rfl, fun j _ hj => by rw [Nat.le_zero.1 hj], by omega⟩
    | succ n ih =>
        obtain ⟨i, hi⟩ := ih
        by_cases hsame : f (n + 1) = f n
        · exact ⟨i, hi.succ_of_same hsame⟩
        · exact ⟨n + 1, succ_of_other hsame⟩
  obtain ⟨i, hi⟩ := hexists
  exact ⟨i, hi, fun i' hi' => Nat.le_antisymm (hi'.le_of_unbroken hi) (hi.le_of_unbroken hi')⟩

end StretchBegins

/-- The time of a stretch that begins with the status behind some evaluations: that of the last of
them.  If it begins with the start, it is the time there, or else that of the first evaluation. -/
def stretchTime (start : Option ModelStatus) (steps : ℕ → EvaluationStep) : ℕ → String
  | 0 => (readySince start).getD (steps 0).timestamp
  | i + 1 => (steps i).timestamp

/-- What becomes of the conditions of a model while it is evaluated again and again. -/
structure ConditionHistory (start : Option ModelStatus) (steps : ℕ → EvaluationStep) : Prop where
  others_kept : ∀ n, (conditionsOf (statusAfter start steps n)).filter isOtherCondition =
    (conditionsOf start).filter isOtherCondition
  ready_once : ∀ n, ∃ c,
    (conditionsOf (statusAfter start steps (n + 1))).filter isReadyCondition = [c] ∧
      readyOf (statusAfter start steps (n + 1)) = some c
  /-- The new ready condition stands where the former one stood. -/
  in_place : ∀ {n : ℕ} {before after : List Condition} {former : Condition},
    conditionsOf (statusAfter start steps n) = before ++ former :: after →
    isReadyCondition former = true →
    ∃ c, isReadyCondition c = true ∧
      conditionsOf (statusAfter start steps (n + 1)) = before ++ c :: after
  at_end : ∀ {n : ℕ},
    (∀ c ∈ conditionsOf (statusAfter start steps n), ¬ isReadyCondition c = true) →
    ∃ c, isReadyCondition c = true ∧ conditionsOf (statusAfter start steps (n + 1)) =
      conditionsOf (statusAfter start steps n) ++ [c]
  /-- The current stretch of one status and one reason begins somewhere. -/
  stretch : ∀ n, ∃! i, StretchBegins (fun k => standing (statusAfter start steps k)) n i
  since_stretch : ∀ {n i : ℕ},
    StretchBegins (fun k => standing (statusAfter start steps k)) (n + 1) i →
    readySince (statusAfter start steps (n + 1)) = some (stretchTime start steps i)
  /-- While the status and the reason stay, nothing else moves the time. -/
  unmoved : ∀ {n : ℕ} {since : String},
    standing (statusAfter start steps (n + 1)) = standing (statusAfter start steps n) →
    readySince (statusAfter start steps n) = some since →
    readySince (statusAfter start steps (n + 1)) = some since

section Run

variable {start : Option ModelStatus} {steps : ℕ → EvaluationStep} {n i : ℕ}

theorem filter_isOtherCondition_statusAfter (n : ℕ) :
    (conditionsOf (statusAfter start steps n)).filter isOtherCondition =
      (conditionsOf start).filter isOtherCondition := by
  induction n with
  | zero => rfl
  | succ n ih => exact EvaluationStep.filter_isOtherCondition_stored.trans ih

theorem length_filter_isReadyCondition_statusAfter
    (h : ((conditionsOf start).filter isReadyCondition).length ≤ 1) (n : ℕ) :
    ((conditionsOf (statusAfter start steps n)).filter isReadyCondition).length ≤ 1 := by
  induction n with
  | zero => exact h
  | succ n ih =>
      obtain ⟨c, hc⟩ := EvaluationStep.filter_isReadyCondition_stored (e := steps n) ih
      change ((conditionsOf ((steps n).stored _)).filter isReadyCondition).length ≤ 1
      rw [hc]
      exact le_rfl

/-- Behind an evaluation the time is that of the stretch. -/
theorem readySince_statusAfter
    (h : StretchBegins (fun k => standing (statusAfter start steps k)) (n + 1) i) :
    readySince (statusAfter start steps (n + 1)) = some (stretchTime start steps i) := by
  induction n with
  | zero =>
      rcases h.of_succ with ⟨hsame, hbegins⟩ | ⟨hother, rfl⟩
      · obtain rfl : i = 0 := Nat.le_zero.1 hbegins.le
        exact EvaluationStep.readySince_stored_of_same hsame
      · exact EvaluationStep.readySince_stored_of_other hother
  | succ n ih =>
      rcases h.of_succ with ⟨hsame, hbegins⟩ | ⟨hother, rfl⟩
      · have hsince := EvaluationStep.readySince_stored_of_same hsame
        rw [ih hbegins] at hsince
        exact hsince
      · exact EvaluationStep.readySince_stored_of_other hother

end Run

/-- Evaluations keep the history of the conditions, whatever they meet. -/
theorem conditions_have_history (start : Option ModelStatus) (steps : ℕ → EvaluationStep)
    (hready : ((conditionsOf start).filter isReadyCondition).length ≤ 1) :
    ConditionHistory start steps where
  others_kept := filter_isOtherCondition_statusAfter
  ready_once := by
    intro n
    obtain ⟨c, hc⟩ := EvaluationStep.filter_isReadyCondition_stored (e := steps n)
      (length_filter_isReadyCondition_statusAfter hready n)
    refine ⟨c, hc, ?_⟩
    unfold readyOf
    rw [← List.head?_filter]
    exact congrArg List.head? hc
  in_place := EvaluationStep.conditionsOf_stored_in_place
    (length_filter_isReadyCondition_statusAfter hready _)
  at_end := EvaluationStep.conditionsOf_stored_at_end
  stretch := StretchBegins.existsUnique _
  since_stretch := readySince_statusAfter
  unmoved := by
    intro n since hsame hsince
    have hkept := EvaluationStep.readySince_stored_of_same hsame
    rw [hsince] at hkept
    exact hkept

/-- A minute passes between two evaluations of a model that is not supported any more, and the
second one sees a new generation. -/
def unsupportedSteps (n : ℕ) : EvaluationStep where
  registry := Registry.empty.register "ExternalModel" (ExternalBackend.backend 5)
  reply := fun _ _ _ => .timedOut
  past := []
  metadata := { formerlyReady.metadata with generation := some (n + 2) }
  backend := formerlyReady.backend
  time := 1700000000500000000 + n * 60000000000

/-- The model is not ready since the first of them. -/
theorem formerlyReady_since :
    ((conditionsOf formerlyReady.status).filter isReadyCondition).length ≤ 1 ∧
      readySince (statusAfter formerlyReady.status unsupportedSteps 2) =
        some "2023-11-14T22:13:20Z" := by
  have hready : ((conditionsOf formerlyReady.status).filter isReadyCondition).length ≤ 1 := by
    decide
  refine ⟨hready, ?_⟩
  have hfirst : standing (statusAfter formerlyReady.status unsupportedSteps 1) ≠
      standing formerlyReady.status := by decide
  have hsecond : standing (statusAfter formerlyReady.status unsupportedSteps 2) =
      standing (statusAfter formerlyReady.status unsupportedSteps 1) := by decide
  have hbegins : StretchBegins
      (fun k => standing (statusAfter formerlyReady.status unsupportedSteps k)) 2 1 :=
    (StretchBegins.succ_of_other hfirst).succ_of_same hsecond
  have hhistory := conditions_have_history formerlyReady.status unsupportedSteps hready
  have htime : stretchTime formerlyReady.status unsupportedSteps 1 = "2023-11-14T22:13:20Z" := by
    decide
  rw [hhistory.since_stretch hbegins, htime]

end ModelGate

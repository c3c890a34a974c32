import Mathlib
import ModelGate.Proofs.Reconcile.Delays
import ModelGate.Proofs.Reconcile.Trace

/-!
# How long failed passes wait

Passes over many models run side by side, and each tells the records of the controller what it
notes and how it ends.  `retry_delay_of_history` says how long a failed pass over a model waits
after any such history: the delay doubles with every failure since the last pass that settled the
model, this pass included.

Settling is not the same as succeeding.  A pass that removes the finalizer settles the model before
the removal is answered, so it may settle and fail; and a pass that adds the finalizer or has
nothing to do succeeds without settling.  The theorem says exactly when the delay is nevertheless
that of the failures in a row.
-/

namespace ModelGate

open Program (Event Replies run)

/-- The note of an event. -/
def Program.Event.note? : Event → Option Note
  | .noted n => some n
  | .sent .. => none

/-- One pass over a model, with everything that it depends on. -/
structure ReconcilePass where
  registry : Registry
  limit : Duration
  now : String
  model : Model
  reply : Replies

/-- What the records of the controller are told. -/
inductive RecordEntry where
  | noted (note : Note)
  | ended (model : Model) (result : Except PassError Action)

/-- An entry in the history of all passes, with the object whose pass wrote it. -/
structure HistoryEntry where
  writer : ObjectId
  entry : RecordEntry

namespace ReconcilePass

/-- What a pass does, and how it ends. -/
def outcome (p : ReconcilePass) : List Event × Except PassError Action :=
  run p.reply [] (Pass.reconcile p.registry p.limit p.now p.model)

def notes (p : ReconcilePass) : List Note :=
  p.outcome.1.filterMap Event.note?

def result (p : ReconcilePass) : Except PassError Action :=
  p.outcome.2

/-- All that a pass tells the records. -/
def journal (p : ReconcilePass) : List RecordEntry :=
  p.notes.map .noted ++ [.ended p.model p.result]

/-- Whether a pass fails. -/
def fails (p : ReconcilePass) : Bool :=
  match p.result with
  | .error _ => true
  | .ok _ => false

/-- Whether a pass settles its model: the failures of the model no longer count. -/
def settles (p : ReconcilePass) : Bool :=
  decide (Note.settled p.model.id ∈ p.notes)

end ReconcilePass

/-! ## What passes settle -/

namespace Pass

open Program (requests run_pure)

variable {reply : Replies} {registry : Registry} {limit : Duration} {now : String} {model : Model}

theorem StoreTrace.not_settled {ns : String} {status : ModelStatus} {store : List Event}
    (h : StoreTrace limit ns model status store) (id : ObjectId) :
    .noted (.settled id) ∉ store := by
  cases h <;> simp

theorem RemovalTrace.not_settled {calls : List Event} (h : RemovalTrace registry model calls)
    (id : ObjectId) : .noted (.settled id) ∉ calls := by
  cases h with
  | uncalled => simp
  | called howns sent => simp

/-- The pass over a served model settles it if and only if it succeeds. -/
theorem settled_mem_apply_iff (ns : String) (id : ObjectId) :
    .noted (.settled id) ∈ (run reply [] (apply registry limit now ns model)).1 ↔
      id = model.id ∧ ∃ action, (run reply [] (apply registry limit now ns model)).2 = .ok action := by
  obtain ⟨calls, store, ending, hcalls, hstore, hending, hrun⟩ :=
    run_apply reply registry limit now ns model []
  rw [hrun]
  have hsettled : .noted (.settled id) ∉ calls := by
    intro hmem
    rcases hcalls.note_eq hmem with hnote | hnote <;> cases hnote
  -- How the pass ends decides whether it settles.
  generalize (run reply [] (apply registry limit now ns model)).2 = result at hending
  cases hending with
  | settled action => simp [hsettled, hstore.not_settled]
  | failed error => simp [hsettled, hstore.not_settled]

/-- The pass over a deleted model settles it if and only if its routes are removed, whatever becomes
of the finalizer. -/
theorem settled_mem_finalize_iff (ns : String) (index : Nat) (id : ObjectId) :
    .noted (.settled id) ∈ (run reply [] (finalize registry ns model index)).1 ↔
      id = model.id ∧ model.metadata.name ≠ none ∧
        ∃ removal, (run reply [] (removeRoutes registry model)).2 = .ok removal := by
  obtain ⟨calls, hcalls, hrun⟩ := run_removeRoutes reply registry model []
  cases hname : model.metadata.name with
  | none => simp [run_finalize_of_unnamed hname]
  | some name =>
      cases hremoval : (run reply [] (removeRoutes registry model)).2 with
      | error error =>
          rw [run_finalize_of_error hname hremoval, hrun]
          simp [hcalls.not_settled]
      | ok removal =>
          rw [run_finalize_of_ok hname hremoval, hrun]
          simp [hcalls.not_settled]

theorem settled_notMem_addFinalizer (ns : String) (id : ObjectId) :
    .noted (.settled id) ∉ (run reply [] (addFinalizer ns model)).1 := by
  cases hname : model.metadata.name with
  | none => simp [run_addFinalizer_of_unnamed hname]
  | some name =>
      rw [run_addFinalizer hname]
      simp

/-- The pass of a served model settles if it succeeds; that of a deleted model settles if the
removal of its routes does, whatever becomes of the finalizer. -/
def Settles (reply : Replies) (registry : Registry) (limit : Duration) (now : String)
    (model : Model) : Prop :=
  model.metadata.ns ≠ none ∧ Carries model ∧
    if model.metadata.isDeleting then
      model.metadata.name ≠ none ∧
        ∃ removal, (run reply [] (removeRoutes registry model)).2 = .ok removal
    else ∃ action, (run reply [] (reconcile registry limit now model)).2 = .ok action

theorem settled_mem_iff (id : ObjectId) :
    .noted (.settled id) ∈ (run reply [] (reconcile registry limit now model)).1 ↔
      id = model.id ∧ Settles reply registry limit now model := by
  unfold Settles
  cases hns : model.metadata.ns with
  | none =>
      rw [reconcile_of_cluster_scope hns]
      simp [run_pure]
  | some ns =>
      -- The four states of a model: with or without the finalizer, being deleted or not.
      by_cases hcarries : Carries model
      · cases hdeleting : model.metadata.isDeleting with
        | false =>
            rw [reconcile_of_served hns hcarries hdeleting, settled_mem_apply_iff]
            simp [hcarries]
        | true =>
            obtain ⟨index, -, hreconcile⟩ := reconcile_of_deleted registry limit now hns
              hcarries hdeleting
            rw [hreconcile, settled_mem_finalize_iff]
            simp [hcarries]
      · cases hdeleting : model.metadata.isDeleting with
        | false =>
            rw [reconcile_of_new hns hcarries hdeleting]
            simp [settled_notMem_addFinalizer, hcarries]
        | true =>
            rw [reconcile_of_finalized hns hcarries hdeleting]
            simp [run_pure, hcarries]

end Pass

namespace ReconcilePass

/-- A pass settles no other model than its own. -/
theorem settled_mem_notes_iff (p : ReconcilePass) (id : ObjectId) :
    .settled id ∈ p.notes ↔
      id = p.model.id ∧ Pass.Settles p.reply p.registry p.limit p.now p.model := by
  rw [← Pass.settled_mem_iff]
  unfold notes outcome
  rw [List.mem_filterMap]
  constructor
  · rintro ⟨event, hevent, hnote⟩
    cases event with
    | sent request limit => cases hnote
    | noted note =>
        rw [← Option.some.inj hnote]
        exact hevent
  · intro hevent
    exact ⟨_, hevent, rfl⟩

theorem settles_iff (p : ReconcilePass) :
    p.settles = true ↔ Pass.Settles p.reply p.registry p.limit p.now p.model := by
  unfold settles
  rw [decide_eq_true_eq, settled_mem_notes_iff]
  simp

/-! ## Histories -/

/-- The failures of a list of passes since the last one that settled, this one included. -/
def failuresSinceSettled (passes : List ReconcilePass) : Nat :=
  passes.foldl (fun n p => (if p.settles then 0 else n) + (if p.fails then 1 else 0)) 0

/-- The failures of a list of passes since the last one that succeeded. -/
def failuresSinceSuccess (passes : List ReconcilePass) : Nat :=
  passes.foldl (fun n p => if p.fails then n + 1 else 0) 0

end ReconcilePass

open ReconcilePass (failuresSinceSettled failuresSinceSuccess)

/-- How many failures of an object count after one more entry. -/
def RecordEntry.count (id : ObjectId) (n : Nat) : RecordEntry → Nat
  | .noted (.settled other) => if other = id then 0 else n
  | .ended model (.error _) => if model.id = id then n + 1 else n
  | _ => n

namespace Records

/-- The records after one more entry. -/
def take (r : Records) : RecordEntry → Records
  | .noted note => r.note note
  | .ended model result => (r.conclude model result).2

/-- The records after a history. -/
def after (history : List HistoryEntry) : Records :=
  history.foldl (fun r e => r.take e.entry) start

end Records

/-- What the passes over one model have written. -/
def written (id : ObjectId) (history : List HistoryEntry) : List RecordEntry :=
  (history.filter fun e => decide (e.writer = id)).map (·.entry)

namespace Records

theorem count_take {r : Records} {id : ObjectId} {n bound : Nat} (hbound : bound = UInt32.size - 1)
    (h : r.backoff.count id = min n bound) (e : RecordEntry) :
    (r.take e).backoff.count id = min (e.count id n) bound := by
  cases e with
  | noted note =>
      cases note with
      | settled other =>
          change (r.backoff.reset other).count id = min (if other = id then 0 else n) bound
          rw [Backoff.count_reset, h]
          by_cases hother : other = id
          · rw [if_pos hother, if_pos hother.symm, Nat.zero_min]
          · rw [if_neg hother, if_neg (Ne.symm hother)]
      | _ => exact h
  | ended model result =>
      cases result with
      | ok action => exact h
      | error error =>
          change (r.backoff.next model.id).2.count id = min (if model.id = id then n + 1 else n) bound
          rw [Backoff.count_next]
          by_cases hid : model.id = id
          · rw [if_pos hid, if_pos hid.symm, hid, h]
            omega
          · rw [if_neg hid, if_neg (Ne.symm hid), h]

theorem isStandard_take {r : Records} (h : r.backoff.IsStandard) (e : RecordEntry) :
    (r.take e).backoff.IsStandard := by
  cases e with
  | noted note =>
      cases note with
      | settled other => exact h.reset other
      | _ => exact h
  | ended model result =>
      cases result with
      | ok action => exact h
      | error error => exact h.next model.id

/-- After any history the records count the failures as its entries do, within 32 bits. -/
theorem count_after (id : ObjectId) (history : List HistoryEntry) {bound : Nat}
    (hbound : bound = UInt32.size - 1) :
    (after history).backoff.IsStandard ∧
      (after history).backoff.count id =
        min (history.foldl (fun n e => e.entry.count id n) 0) bound := by
  induction history using List.reverseRecOn with
  | nil => exact ⟨Backoff.isStandard_standard, (Nat.zero_min _).symm⟩
  | append_singleton history e ih =>
      unfold after at ih ⊢
      rw [List.foldl_append, List.foldl_append]
      exact ⟨isStandard_take ih.1 e.entry, count_take hbound ih.2 e.entry⟩

end Records

namespace ReconcilePass

/-- What a pass over another model writes does not count. -/
theorem count_of_mem_journal {p : ReconcilePass} {id : ObjectId} (hid : p.model.id ≠ id)
    {e : RecordEntry} (he : e ∈ p.journal) (n : Nat) : e.count id n = n := by
  rcases List.mem_append.1 he with hnote | hend
  · obtain ⟨note, hmem, rfl⟩ := List.mem_map.1 hnote
    cases note with
    | settled other =>
        have hother : other = p.model.id := ((settled_mem_notes_iff p other).1 hmem).1
        change (if other = id then 0 else n) = n
        rw [hother, if_neg hid]
    | _ => rfl
  · rw [List.mem_singleton.1 hend]
    cases p.result with
    | ok action => rfl
    | error error => exact if_neg hid

/-- So a history counts what the passes over the model itself have written. -/
theorem foldl_count_eq_written {id : ObjectId} {history : List HistoryEntry}
    (hothers : ∀ e ∈ history, e.writer ≠ id →
      ∃ q : ReconcilePass, q.model.id = e.writer ∧ e.entry ∈ q.journal) (n : Nat) :
    history.foldl (fun n e => e.entry.count id n) n =
      (written id history).foldl (fun n e => e.count id n) n := by
  induction history generalizing n with
  | nil => rfl
  | cons e rest ih =>
      have hrest := ih fun f hf => hothers f (List.mem_cons_of_mem e hf)
      unfold written at hrest ⊢
      by_cases hwriter : e.writer = id
      · -- The entry stays in the history of the model.
        rw [List.filter_cons_of_pos (by simp [hwriter]), List.map_cons, List.foldl_cons,
          List.foldl_cons, hrest]
      · obtain ⟨q, hq, hentry⟩ := hothers e List.mem_cons_self hwriter
        have hsame := count_of_mem_journal (hq ▸ hwriter) hentry n
        rw [List.filter_cons_of_neg (by simp [hwriter]), List.foldl_cons, hsame, hrest]

theorem foldl_count_notes (id : ObjectId) (notes : List Note) (n : Nat) :
    (notes.map RecordEntry.noted).foldl (fun n e => e.count id n) n =
      if Note.settled id ∈ notes then 0 else n := by
  induction notes generalizing n with
  | nil => rfl
  | cons note rest ih =>
      rw [List.map_cons, List.foldl_cons, ih]
      cases note with
      | settled other =>
          change (if Note.settled id ∈ rest then 0 else if other = id then 0 else n) = _
          by_cases hother : other = id
          · simp [hother]
          · simp [hother, Ne.symm hother]
      | _ => simp [RecordEntry.count]

theorem foldl_count_own_notes {p : ReconcilePass} {id : ObjectId} (hid : p.model.id = id) (n : Nat) :
    (p.notes.map RecordEntry.noted).foldl (fun n e => e.count id n) n =
      if p.settles then 0 else n := by
  rw [foldl_count_notes, ← hid]
  simp only [settles, decide_eq_true_eq]

/-- A pass counts as it settles and fails. -/
theorem foldl_count_journal {p : ReconcilePass} {id : ObjectId} (hid : p.model.id = id) (n : Nat) :
    p.journal.foldl (fun n e => e.count id n) n =
      (if p.settles then 0 else n) + (if p.fails then 1 else 0) := by
  unfold journal fails
  rw [List.foldl_append, foldl_count_own_notes hid]
  cases p.result with
  | ok action => simp [RecordEntry.count]
  | error error => simp [RecordEntry.count, hid]

theorem foldl_count_journals {passes : List ReconcilePass} {id : ObjectId}
    (hid : ∀ p ∈ passes, p.model.id = id) (n : Nat) :
    (passes.flatMap journal).foldl (fun n e => e.count id n) n =
      passes.foldl (fun n p => (if p.settles then 0 else n) + (if p.fails then 1 else 0)) n := by
  induction passes generalizing n with
  | nil => rfl
  | cons p rest ih =>
      rw [List.flatMap_cons, List.foldl_append, foldl_count_journal (hid p List.mem_cons_self),
        List.foldl_cons]
      exact ih (fun q hq => hid q (List.mem_cons_of_mem p hq)) _

theorem failuresSinceSettled_append_of_fails (passes : List ReconcilePass) {p : ReconcilePass}
    (h : p.fails = true) :
    failuresSinceSettled (passes ++ [p]) =
      (if p.settles then 0 else failuresSinceSettled passes) + 1 := by
  unfold failuresSinceSettled
  rw [List.foldl_append, List.foldl_cons, List.foldl_nil, if_pos h]

theorem failuresSinceSuccess_append_of_fails (passes : List ReconcilePass) {p : ReconcilePass}
    (h : p.fails = true) :
    failuresSinceSuccess (passes ++ [p]) = failuresSinceSuccess passes + 1 := by
  unfold failuresSinceSuccess
  rw [List.foldl_append, List.foldl_cons, List.foldl_nil, if_pos h]

end ReconcilePass

/-! ## Delays -/

/-- The delay after a number of failures, of which the last one is retried. -/
def retryDelay (failures : Nat) : Duration :=
  Duration.ofSeconds (min (2 ^ (failures - 1)) 300)

/-- The delays of different numbers of failures differ until they reach five minutes. -/
theorem retryDelay_eq_iff {j k : Nat} (hj : 1 ≤ j) (hk : 1 ≤ k) :
    retryDelay j = retryDelay k ↔ j = k ∨ (10 ≤ j ∧ 10 ≤ k) := by
  have hless : ∀ a b : Nat, a < b → a < 9 → min (2 ^ a) 300 < min (2 ^ b) 300 := by
    intro a b hab ha
    have hpow : 2 ^ a < 2 ^ b := Nat.pow_lt_pow_right (by decide) hab
    have hsmall : 2 ^ a ≤ 2 ^ 8 := Nat.pow_le_pow_right (by decide) (by omega)
    omega
  -- Up to nine doublings the delays ascend strictly; from there on they are at the bound.
  unfold retryDelay Duration.ofSeconds
  constructor
  · intro h
    have hmin : min (2 ^ (j - 1)) 300 = min (2 ^ (k - 1)) 300 :=
      Nat.eq_of_mul_eq_mul_right (by decide) h
    rcases Nat.lt_trichotomy (j - 1) (k - 1) with hlt | heq | hlt
    · by_cases hsmall : j - 1 < 9
      · exact absurd hmin (Nat.ne_of_lt (hless _ _ hlt hsmall))
      · exact Or.inr ⟨by omega, by omega⟩
    · exact Or.inl (by omega)
    · by_cases hsmall : k - 1 < 9
      · exact absurd hmin.symm (Nat.ne_of_lt (hless _ _ hlt hsmall))
      · exact Or.inr ⟨by omega, by omega⟩
  · rintro (rfl | ⟨hj', hk'⟩)
    · rfl
    · rw [Backoff.min_two_pow_of_nine_le (by omega : 9 ≤ j - 1),
        Backoff.min_two_pow_of_nine_le (by omega : 9 ≤ k - 1)]

/-- After any history a failed pass over a model waits as long as the failures since the last pass
that settled the model demand.  That is the delay of the failures in a row if and only if both
numbers are the same or both have reached the longest delay. -/
theorem retry_delay_of_history {id : ObjectId} {history : List HistoryEntry}
    {passes : List ReconcilePass} {p : ReconcilePass}
    (hid : ∀ q ∈ passes ++ [p], q.model.id = id)
    (hwritten : written id history = passes.flatMap (·.journal) ++ p.notes.map .noted)
    (hothers : ∀ e ∈ history, e.writer ≠ id →
      ∃ q : ReconcilePass, q.model.id = e.writer ∧ e.entry ∈ q.journal)
    (hfails : p.fails = true) :
    ((Records.after history).conclude p.model p.result).1 =
        .requeue (retryDelay (failuresSinceSettled (passes ++ [p]))) ∧
      (((Records.after history).conclude p.model p.result).1 =
          .requeue (retryDelay (failuresSinceSuccess (passes ++ [p]))) ↔
        failuresSinceSettled (passes ++ [p]) = failuresSinceSuccess (passes ++ [p]) ∨
          (10 ≤ failuresSinceSettled (passes ++ [p]) ∧
            10 ≤ failuresSinceSuccess (passes ++ [p]))) ∧
      ∀ q ∈ passes ++ [p], q.settles = true ↔
        Pass.Settles q.reply q.registry q.limit q.now q.model := by
  have hpid : p.model.id = id := hid p (by simp)
  obtain ⟨hstandard, hcount⟩ := Records.count_after id history rfl
  -- The earlier passes have told all, and this one has told its notes but not yet its end.
  have hcounted : history.foldl (fun n e => e.entry.count id n) 0 =
      if p.settles then 0 else failuresSinceSettled passes := by
    rw [ReconcilePass.foldl_count_eq_written hothers, hwritten, List.foldl_append,
      ReconcilePass.foldl_count_journals (fun q hq => hid q (by simp [hq])),
      ReconcilePass.foldl_count_own_notes hpid]
    rfl
  have hdelay : ((Records.after history).conclude p.model p.result).1 =
      .requeue (retryDelay (failuresSinceSettled (passes ++ [p]))) := by
    cases hresult : p.result with
    | ok action => simp [ReconcilePass.fails, hresult] at hfails
    | error error =>
        change Action.requeue ((Records.after history).backoff.next p.model.id).1 = _
        rw [ReconcilePass.failuresSinceSettled_append_of_fails passes hfails, hpid]
        change Action.requeue ((Records.after history).backoff.delay
          ((Records.after history).backoff.count id)) = _
        rw [hcount, hstandard.delay_min (by decide), hstandard.delay_eq, hcounted]
        rfl
  refine ⟨hdelay, ?_, fun q _ => q.settles_iff⟩
  rw [hdelay, Action.requeue.injEq]
  refine retryDelay_eq_iff ?_ ?_
  · rw [ReconcilePass.failuresSinceSettled_append_of_fails passes hfails]
    exact Nat.succ_le_succ (Nat.zero_le _)
  · rw [ReconcilePass.failuresSinceSuccess_append_of_fails passes hfails]
    exact Nat.succ_le_succ (Nat.zero_le _)

/-- The finalizer of a deleted model cannot be removed. -/
def stuckPass : ReconcilePass where
  registry := .empty
  limit := 0
  now := ""
  model := ⟨{ Metadata.blank with
    name := some "opt"
    ns := some "llm"
    finalizers := some ["maas.opendatahub.io/model-cleanup"]
    deletionTimestamp := some "2025-01-01T00:00:00Z" }, ⟨"llmisvc", "opt", none⟩, none⟩
  reply := fun _ _ _ => .failed .unreadable

/-- The pass has failed once and is about to fail again. -/
def stuckHistory : List HistoryEntry :=
  (stuckPass.journal ++ stuckPass.notes.map RecordEntry.noted).map fun entry => ⟨stuckPass.model.id, entry⟩

/-- The second failure in a row is retried after one second, like the first one. -/
theorem stuck_pass_is_retried_after_one_second :
    failuresSinceSuccess [stuckPass, stuckPass] = 2 ∧
      ((Records.after stuckHistory).conclude stuckPass.model stuckPass.result).1 =
        .requeue (Duration.ofSeconds 1) := by
  have hwritten : written stuckPass.model.id stuckHistory =
      [stuckPass].flatMap (·.journal) ++ stuckPass.notes.map .noted := by
    simp [written, stuckHistory, List.filter_eq_self.2, Function.comp_def]
  have hothers : ∀ e ∈ stuckHistory, e.writer ≠ stuckPass.model.id →
      ∃ q : ReconcilePass, q.model.id = e.writer ∧ e.entry ∈ q.journal := by
    intro e he hwriter
    obtain ⟨entry, -, rfl⟩ := List.mem_map.1 he
    exact absurd rfl hwriter
  have hdelay := (@retry_delay_of_history stuckPass.model.id stuckHistory [stuckPass] stuckPass
    (by simp) hwritten hothers (by decide)).1
  have hsettled : failuresSinceSettled ([stuckPass] ++ [stuckPass]) = 1 := by decide
  refine ⟨by decide, ?_⟩
  rw [hdelay, hsettled]
  rfl

end ModelGate

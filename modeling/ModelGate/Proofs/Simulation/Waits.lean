import Mathlib
import ModelGate.Proofs.Reconcile.ProgramRun
import ModelGate.Simulation.Traffic

/-!
# Waiting for replies

A sender that waits for some time at most knows by then what became of its request, however the
traffic is disturbed (`exists_arrival_le`).  A sender that waits without a limit depends on the
cluster: it is as late as the reply, and waits forever if there is none (`arrival_of_unlimited`).

By `exists_run_of_asks` every run of a program whose requests all have the same limit ends, no later
than its requests together may take.  `meets_replied` says what can become of one request: the API
server answers it, or a disturbance keeps it from getting there.
-/

namespace ModelGate.Traffic

open Program (Asks)

variable {t t' t'' : Traffic} {r : Request} {limit time : Duration} {wait : Option Duration}
  {notes : List Note} {α : Type}

theorem exists_arrival_le (t : Traffic) (r : Request) (limit : Duration) :
    ∃ time, (t.depart r (some limit)).1.arrival = some time ∧ time ≤ t.clock + limit := by
  change ∃ time, ((Fault.pick r t.faults).1.transit t.clock (some limit)).arrival = some time ∧ _
  generalize (Fault.pick r t.faults).1 = fault
  unfold Fault.transit
  by_cases hlate : (fault.hangs || decide (limit < fault.delay)) = true
  · refine ⟨t.clock + limit, ?_, le_rfl⟩
    simp [hlate]
  · refine ⟨t.clock + fault.delay, by simp [hlate], ?_⟩
    have hdelay : fault.delay ≤ limit := by
      simp only [Bool.or_eq_true, decide_eq_true_eq, not_or, not_lt] at hlate
      exact hlate.2
    exact Nat.add_le_add_left hdelay _

theorem arrival_of_unlimited (t : Traffic) (r : Request) :
    (t.depart r none).1.arrival =
      if (Fault.pick r t.faults).1.hangs then none
      else some (t.clock + (Fault.pick r t.faults).1.delay) := by
  change ((Fault.pick r t.faults).1.transit t.clock none).arrival = _
  generalize (Fault.pick r t.faults).1 = fault
  unfold Fault.transit
  cases fault.hangs <;> simp

@[simp]
theorem sent_arrive (t : Traffic) (r : Request) (fate : Fate) :
    (t.arrive r fate).2.sent = t.sent := by
  cases fate with
  | abandoned => rfl
  | refused error => rfl
  | delivered =>
      unfold arrive
      dsimp only
      split <;> rfl

@[simp]
theorem clock_arrive (t : Traffic) (r : Request) (fate : Fate) :
    (t.arrive r fate).2.clock = t.clock := by
  cases fate with
  | abandoned => rfl
  | refused error => rfl
  | delivered =>
      unfold arrive
      dsimp only
      split <;> rfl

@[simp]
theorem faults_arrive (t : Traffic) (r : Request) (fate : Fate) :
    (t.arrive r fate).2.faults = t.faults := by
  cases fate with
  | abandoned => rfl
  | refused error => rfl
  | delivered =>
      unfold arrive
      dsimp only
      split <;> rfl

/-! ## Steps of a run -/

/-- The traffic at the time when the sender of a request knows what became of it. -/
def replied (t : Traffic) (r : Request) (wait : Option Duration) (time : Duration) :
    Reply r.Answer × Traffic :=
  { (t.depart r wait).2 with clock := time }.arrive r (t.depart r wait).1.fate

theorem run_ask_of_arrival {next : Reply r.Answer → Program α}
    (h : (t.depart r wait).1.arrival = some time) :
    t.run notes (.ask r wait next) =
      (t.replied r wait time).2.run notes (next (t.replied r wait time).1) := by
  rw [run, replied]
  generalize t.depart r wait = departed at h
  obtain ⟨⟨fate, arrival⟩, behind⟩ := departed
  cases h
  rfl

/-- A run that waits for a reply that never comes has no result. -/
theorem run_ask_of_lost {next : Reply r.Answer → Program α}
    (h : (t.depart r wait).1.arrival = none) : (t.run notes (.ask r wait next)).1 = none := by
  rw [run]
  generalize t.depart r wait = departed at h
  obtain ⟨⟨fate, arrival⟩, behind⟩ := departed
  cases h
  rfl

/-- What a request can meet with, and the cluster behind it. -/
inductive Meets (t : Traffic) (r : Request) : Reply r.Answer → Cluster → Prop
  | answered {answer : r.Answer} {cluster : Cluster} (now : String)
      (h : t.cluster.answer now r = (.ok answer, cluster)) : Meets t r (.answered answer) cluster
  | refused {error : ApiError} {cluster : Cluster} (now : String)
      (h : t.cluster.answer now r = (.error error, cluster)) :
      Meets t r (.failed (.refused error)) cluster
  | disturbed {fault : Fault} {error : ApiError} (hfault : fault ∈ t.faults)
      (h : fault.refusal = some error) : Meets t r (.failed (.refused error)) t.cluster
  | lost {fault : Fault} (hfault : fault ∈ t.faults) : Meets t r .timedOut t.cluster

theorem mem_or_eq_none_of_pick (r : Request) (faults : List Fault) :
    (Fault.pick r faults).1 ∈ faults ∨ (Fault.pick r faults).1 = .none := by
  induction faults with
  | nil => exact Or.inr rfl
  | cons fault rest ih =>
      unfold Fault.pick
      split
      · exact Or.inl List.mem_cons_self
      · exact ih.imp_left (List.mem_cons_of_mem fault)

/-- Without a disturbance a request is delivered. -/
theorem fate_transit (fault : Fault) (now : Duration) (wait : Option Duration) :
    (fault.transit now wait).fate = .delivered ∨
      (∃ error, fault.refusal = some error ∧ (fault.transit now wait).fate = .refused error) ∨
      (fault ≠ .none ∧ (fault.transit now wait).fate = .abandoned) := by
  unfold Fault.transit
  by_cases hlate : (fault.hangs || wait.any fun most => most < fault.delay) = true
  · refine Or.inr (Or.inr ⟨?_, by simp only [hlate, if_true]⟩)
    rintro rfl
    cases wait <;> simp [Fault.none] at hlate
  · cases hrefusal : fault.refusal with
    | none => exact Or.inl (by simp [hlate])
    | some error => exact Or.inr (Or.inl ⟨error, rfl, by simp [hlate]⟩)

theorem meets_of_delivered {behind : Traffic} (h : behind.cluster = t.cluster) :
    t.Meets r (behind.arrive r .delivered).1 (behind.arrive r .delivered).2.cluster := by
  unfold arrive
  rw [h]
  dsimp only
  split
  · next answer cluster hanswer => exact .answered _ hanswer
  · next error cluster hanswer => exact .refused _ hanswer

theorem meets_replied (t : Traffic) (r : Request) (wait : Option Duration) (time : Duration) :
    t.Meets r (t.replied r wait time).1 (t.replied r wait time).2.cluster := by
  have hpick := mem_or_eq_none_of_pick r t.faults
  have hfate : (t.depart r wait).1.fate =
      ((Fault.pick r t.faults).1.transit t.clock wait).fate := rfl
  unfold replied
  rw [hfate]
  rcases fate_transit (Fault.pick r t.faults).1 t.clock wait with
    hdelivered | ⟨error, hrefusal, hrefused⟩ | ⟨hfault, habandoned⟩
  · rw [hdelivered]
    exact meets_of_delivered rfl
  · rw [hrefused]
    refine .disturbed (hpick.resolve_right fun hnone => ?_) hrefusal
    rw [hnone] at hrefusal
    cases hrefusal
  · rw [habandoned]
    exact .lost (hpick.resolve_right hfault)

/-- A request uses up disturbances, and brings no new ones. -/
theorem exists_fault_of_mem_replied {fault : Fault}
    (h : fault ∈ (t.replied r wait time).2.faults) :
    ∃ former ∈ t.faults, fault.refusal = former.refusal := by
  have hrest : (t.replied r wait time).2.faults = (Fault.pick r t.faults).2 := faults_arrive _ _ _
  rw [hrest] at h
  generalize t.faults = faults at h ⊢
  induction faults with
  | nil => cases h
  | cons former rest ih =>
      unfold Fault.pick at h
      split at h
      · rcases List.mem_cons.1 h with rfl | hrest
        · exact ⟨former, List.mem_cons_self, rfl⟩
        · exact ⟨fault, List.mem_cons_of_mem former hrest, rfl⟩
      · rcases List.mem_cons.1 h with rfl | hleft
        · exact ⟨fault, List.mem_cons_self, rfl⟩
        · obtain ⟨other, hother, hsame⟩ := ih hleft
          exact ⟨other, List.mem_cons_of_mem former hother, hsame⟩

/-- Between two states of the traffic some requests were sent, and none of them took longer than
the limit. -/
def Within (limit : Duration) (t t' : Traffic) : Prop :=
  ∃ sent, t'.sent = t.sent ++ sent ∧ t'.clock ≤ t.clock + limit * sent.length

theorem Within.refl (limit : Duration) (t : Traffic) : Within limit t t :=
  ⟨[], by simp⟩

theorem Within.trans (h : Within limit t t') (h' : Within limit t' t'') : Within limit t t'' := by
  obtain ⟨sent, hsent, hclock⟩ := h
  obtain ⟨sent', hsent', hclock'⟩ := h'
  refine ⟨sent ++ sent', by rw [hsent', hsent, List.append_assoc], ?_⟩
  rw [List.length_append, Nat.mul_add, ← Nat.add_assoc]
  exact hclock'.trans (Nat.add_le_add_right hclock _)

theorem within_replied (h : time ≤ t.clock + limit) :
    Within limit t (t.replied r (some limit) time).2 := by
  unfold replied
  refine ⟨[r], by rw [sent_arrive]; rfl, ?_⟩
  rw [clock_arrive]
  simpa using h

/-- A program that waits no longer than a limit for each reply ends in any traffic. -/
theorem exists_run_of_asks {program : Program α} (h : program.Asks fun _ wait => wait = some limit)
    (t : Traffic) (notes : List Note) :
    ∃ result notes' t', t.run notes program = (some result, notes', t') ∧ Within limit t t' := by
  induction program generalizing t notes with
  | done value => exact ⟨value, notes, t, rfl, Within.refl limit t⟩
  | note event rest ih => exact ih h t (notes ++ [event])
  | ask request wait next ih =>
      obtain ⟨rfl, hnext⟩ := h
      -- The sender knows by its limit what became of the request, and goes on from there.
      obtain ⟨time, harrival, htime⟩ := exists_arrival_le t request limit
      obtain ⟨result, notes', t', hrun, hwithin⟩ :=
        ih _ (hnext _) (t.replied request (some limit) time).2 notes
      exact ⟨result, notes', t', (run_ask_of_arrival harrival).trans hrun,
        (within_replied htime).trans hwithin⟩

end ModelGate.Traffic

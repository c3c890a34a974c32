import Mathlib
import ModelGate.Proofs.Simulation.Waits
import ModelGate.Simulation.Controller

/-!
# Taking turns between acquiring and losing a claim

A controller that works for a claim waits in turns to acquire it and to lose it.  In most states of
the channel exactly one of the two waits ends at once (`waiters_agree_iff`).  The exception is a
channel that was closed behind a claim which is still current: such a claim counts as acquired and
as lost.

For the controller this means that a claim starts it once and a stop is final until another claim
is announced, with the same exception: the controller is then started again and stopped at once, so
that it waits for its models forever instead of coming to an end (`TakesTurns`).

`GoesOn` are the runs in which no claim is announced.  They include all that a controller does while
time goes by (`goesOn_advance`), and the writes of others to the cluster (`goesOn_put?` and
`goesOn_delete`).
-/

namespace ModelGate

namespace ClaimChannel

variable {channel : ClaimChannel} {host : String} {now : Duration}

/-- The channel behind a history: the claims that were sent on it, and whether the sender has been
dropped since. -/
def after (first : Claim) (sent : List Claim) (dropped : Bool) : ClaimChannel :=
  let channel := sent.foldl announce (start first)
  if dropped then channel.close else channel

/-- Only the last claim counts. -/
theorem after_eq (first : Claim) (sent : List Claim) (dropped : Bool) :
    after first sent dropped = ⟨sent.getLastD first, dropped⟩ := by
  have hopen : ∀ first, sent.foldl announce (start first) = start (sent.getLastD first) := by
    induction sent with
    | nil => exact fun _ => rfl
    | cons claim rest ih =>
        intro first
        rw [List.getLastD_cons]
        exact ih claim
  unfold after
  rw [hopen first]
  cases dropped <;> rfl

theorem acquired?_eq_true_iff :
    channel.acquired? host now = some true ↔ channel.claim.isCurrentFor host now = true := by
  unfold acquired?
  cases channel.claim.isCurrentFor host now <;> cases channel.closed <;> simp

theorem acquired?_eq_false_iff :
    channel.acquired? host now = some false ↔
      channel.closed = true ∧ channel.claim.isCurrentFor host now = false := by
  unfold acquired?
  cases channel.claim.isCurrentFor host now <;> cases channel.closed <;> simp

/-- A host that begins to wait for the claim has it at once. -/
def AcquiredAtOnce (channel : ClaimChannel) (host : String) (now : Duration) : Prop :=
  ((Waiter.start host .acquisition).look channel now).ended = some .acquired

/-- A host that begins to wait for the loss of the claim is told of one at once. -/
def LostAtOnce (channel : ClaimChannel) (host : String) (now : Duration) : Prop :=
  ((Waiter.start host .loss).look channel now).ended = some .lost

theorem acquiredAtOnce_iff :
    channel.AcquiredAtOnce host now ↔ channel.claim.isCurrentFor host now = true := by
  unfold AcquiredAtOnce Waiter.look Waiter.start waitEnd? acquired?
  cases channel.claim.isCurrentFor host now <;> cases channel.closed <;> simp

theorem lostAtOnce_iff :
    channel.LostAtOnce host now ↔
      channel.claim.isCurrentFor host now = false ∨ channel.closed = true := by
  unfold LostAtOnce Waiter.look Waiter.start waitEnd? isLost
  cases channel.claim.isCurrentFor host now <;> cases channel.closed <;> simp

/-- Of the two waits exactly one ends at once, unless the channel is closed and its claim still
current. -/
theorem waiters_agree_iff :
    (channel.AcquiredAtOnce host now ↔ ¬ channel.LostAtOnce host now) ↔
      ¬ (channel.closed = true ∧ channel.claim.isCurrentFor host now = true) := by
  rw [acquiredAtOnce_iff, lostAtOnce_iff]
  cases channel.claim.isCurrentFor host now <;> cases channel.closed <;> simp

end ClaimChannel

/-! ## Claims run out -/

/-- What is not current will not be again. -/
theorem Claim.isCurrentFor_mono {claim : Claim} {host : String} {now later : Duration}
    (hle : now ≤ later) (h : claim.isCurrentFor host later = true) :
    claim.isCurrentFor host now = true := by
  unfold isCurrentFor at h ⊢
  rw [Bool.and_eq_true, decide_eq_true_eq] at h ⊢
  exact ⟨hle.trans_lt h.1, h.2⟩

namespace Tenure

variable {host : String} {channel : ClaimChannel} {drained : Bool} {now later : Duration}

theorem isOver_whileClaimed_iff :
    (whileClaimed host channel drained).isOver now = true ↔
      drained = true ∨ channel.claim.isCurrentFor host now = false ∨ channel.closed = true := by
  simp [isOver, ClaimChannel.isLost]

theorem isGranted_whileClaimed_iff :
    (whileClaimed host channel drained).isGranted now = true ↔
      channel.claim.isCurrentFor host now = true := by
  rw [← ClaimChannel.acquired?_eq_true_iff]
  exact beq_iff_eq

theorem isFinal_whileClaimed_iff :
    (whileClaimed host channel drained).isFinal now = true ↔
      drained = true ∨ channel.closed = true ∧ channel.claim.isCurrentFor host now = false := by
  rw [← ClaimChannel.acquired?_eq_false_iff]
  simp [isFinal]

/-- A controller that has to stop may not work later either. -/
theorem isOver_mono {tenure : Tenure} (hle : now ≤ later) (h : tenure.isOver now = true) :
    tenure.isOver later = true := by
  cases tenure with
  | untilStopped stopped => exact h
  | whileClaimed host channel drained =>
      rw [isOver_whileClaimed_iff] at h ⊢
      rcases h with hdrained | hlost | hclosed
      · exact Or.inl hdrained
      · refine Or.inr (Or.inl (eq_false_of_ne_true fun hcurrent => ?_))
        rw [Claim.isCurrentFor_mono hle hcurrent] at hlost
        cases hlost
      · exact Or.inr (Or.inr hclosed)

end Tenure

namespace Controller

variable {c c' c'' : Controller}

/-! ## Work between two looks at the tenure -/

/-- Two moments of the work between which no time has passed and nobody has looked at who may
work. -/
structure SameWatch (c c' : Controller) : Prop where
  tenure : c'.tenure = c.tenure
  stage : c'.stage = c.stage
  clock : c'.clock = c.clock

theorem SameWatch.refl (c : Controller) : SameWatch c c :=
  ⟨rfl, rfl, rfl⟩

theorem SameWatch.trans (h : SameWatch c c') (h' : SameWatch c' c'') : SameWatch c c'' :=
  ⟨h'.tenure.trans h.tenure, h'.stage.trans h.stage, h'.clock.trans h.clock⟩

theorem sameWatch_schedulePasses (c : Controller) (ids : List ObjectId) (time : Duration) :
    SameWatch c (c.schedulePasses ids time) := by
  unfold schedulePasses
  split
  · exact ⟨rfl, rfl, rfl⟩
  · exact .refl c

theorem sameWatch_objectChanged (c : Controller) (kind : ObjectKind) (id : ObjectId) :
    SameWatch c (c.objectChanged kind id) := by
  cases kind with
  | model =>
      change SameWatch c (c.modelChanged id)
      unfold modelChanged
      split
      · exact sameWatch_schedulePasses c _ _
      · exact .refl c
  | service =>
      change SameWatch c (c.serviceChanged id)
      unfold serviceChanged
      split
      · exact sameWatch_schedulePasses c _ _
      · exact .refl c
  | route => exact .refl c
  | gateway => exact .refl c
  | lease => exact .refl c

theorem sameWatch_conclude (c : Controller) (id : ObjectId) (model : Model)
    (result : Except PassError Action) : SameWatch c (c.conclude id model result) := by
  unfold conclude
  generalize c.records.conclude model result = concluded
  obtain ⟨action, records⟩ := concluded
  cases action with
  | awaitChange => exact ⟨rfl, rfl, rfl⟩
  | requeue delay =>
      have htaken : SameWatch c { c with records } := ⟨rfl, rfl, rfl⟩
      exact htaken.trans (sameWatch_schedulePasses _ _ _)

theorem sameWatch_proceed (c : Controller) (id : ObjectId) (model : Model)
    (program : Program (Except PassError Action)) : SameWatch c (c.proceed id model program) := by
  induction program generalizing c with
  | done result => exact sameWatch_conclude c id model result
  | ask request limit next ih => exact ⟨rfl, rfl, rfl⟩
  | note event rest ih =>
      have hnoted : SameWatch c { c with records := c.records.note event } := ⟨rfl, rfl, rfl⟩
      exact hnoted.trans (ih _)

theorem sameWatch_beginPass (c : Controller) (id : ObjectId) : SameWatch c (c.beginPass id) := by
  have herased : SameWatch c { c with schedule := c.schedule.erase id } := ⟨rfl, rfl, rfl⟩
  unfold beginPass
  dsimp only
  split
  · exact herased
  · exact herased.trans (sameWatch_proceed _ _ _ _)

theorem sameWatch_resume (c : Controller) (pass : WaitingPass) : SameWatch c (c.resume pass) := by
  have harrived : SameWatch c
      { c with traffic := (c.traffic.arrive pass.request pass.transit.fate).2 } :=
    ⟨rfl, rfl, Traffic.clock_arrive _ _ _⟩
  unfold resume
  dsimp only
  split
  · exact harrived.trans ((sameWatch_objectChanged _ _ _).trans (sameWatch_proceed _ _ _ _))
  · exact harrived.trans (sameWatch_proceed _ _ _ _)

theorem sameWatch_of_act? (h : c.act? = some c') : SameWatch c c' := by
  unfold act? at h
  split at h
  · next pass others harrived =>
      have hleft : SameWatch c { c with waiting := others } := ⟨rfl, rfl, rfl⟩
      rw [← Option.some.inj h]
      exact hleft.trans (sameWatch_resume _ pass)
  · obtain ⟨id, -, hbegun⟩ := Option.map_eq_some_iff.1 h
    rw [← hbegun]
    exact sameWatch_beginPass c id

/-! ## Looks at the tenure -/

/-- What a look at the tenure can lead to. -/
inductive Supervision (c : Controller) : Controller → Prop
  | ended (hidle : c.stage = .idle) (hfinal : c.tenure.isFinal c.clock = true) :
      Supervision c { c with stage := .ended }
  /-- The work is begun and stopped at once. -/
  | stalled (hidle : c.stage = .idle) (hfinal : c.tenure.isFinal c.clock = false)
      (hgranted : c.tenure.isGranted c.clock = true) (hover : c.tenure.isOver c.clock = true) :
      Supervision c { c with stage := .stalled }
  | begun (hidle : c.stage = .idle) (hgranted : c.tenure.isGranted c.clock = true)
      (hover : c.tenure.isOver c.clock = false) : Supervision c c.begin
  | stopped (hactive : c.stage = .active) (hover : c.tenure.isOver c.clock = true) :
      Supervision c { c with stage := .stopping c.traffic.cluster.models }
  /-- Nothing is left of what was begun. -/
  | rested {models : Table StoredModel} (hstopping : c.stage = .stopping models)
      (hdone : c.waiting = [] ∧ c.schedule.due? c.isFree c.clock = none) :
      Supervision c { c with stage := .idle, schedule := .empty }

theorem supervision_of_supervise? (h : c.supervise? = some c') : Supervision c c' := by
  unfold supervise? at h
  split at h
  · next hidle =>
      split_ifs at h with hfinal hgranted hover
      · cases h
        exact .ended hidle hfinal
      · cases h
        exact .stalled hidle (by simpa using hfinal) (by simpa using hgranted) hover
      · cases h
        exact .begun hidle (by simpa using hgranted) (by simpa using hover)
  · next hactive =>
      split_ifs at h with hover
      cases h
      exact .stopped hactive hover
  · next models hstopping =>
      split_ifs at h with hdone
      cases h
      exact .rested hstopping (by simpa using hdone)
  · cases h
  · cases h

theorem Supervision.tenure_eq (h : Supervision c c') : c'.tenure = c.tenure := by
  cases h <;> rfl

theorem Supervision.clock_eq (h : Supervision c c') : c'.clock = c.clock := by
  cases h <;> rfl

/-! ## Time without a new claim -/

/-- A step of the controller or of the cluster, with which no claim is announced and nobody is told
to stop. -/
inductive Goes : Controller → Controller → Prop
  | supervised {c c' : Controller} (h : c.supervise? = some c') : Goes c c'
  | acted {c c' : Controller} (h : c.act? = some c') : Goes c c'
  | noticed (c : Controller) (kind : ObjectKind) (id : ObjectId) : Goes c (c.objectChanged kind id)
  /-- Time passes, or someone else writes to the cluster. -/
  | passed (c : Controller) (traffic : Traffic) (h : c.clock ≤ traffic.clock) :
      Goes c { c with traffic }

/-- Any number of such steps. -/
abbrev GoesOn : Controller → Controller → Prop :=
  Relation.ReflTransGen Goes

theorem Goes.tenure_eq (h : Goes c c') : c'.tenure = c.tenure := by
  cases h with
  | supervised h => exact (supervision_of_supervise? h).tenure_eq
  | acted h => exact (sameWatch_of_act? h).tenure
  | noticed kind id => exact (sameWatch_objectChanged c kind id).tenure
  | passed traffic hle => rfl

theorem Goes.clock_le (h : Goes c c') : c.clock ≤ c'.clock := by
  cases h with
  | supervised h => exact (supervision_of_supervise? h).clock_eq.ge
  | acted h => exact (sameWatch_of_act? h).clock.ge
  | noticed kind id => exact (sameWatch_objectChanged c kind id).clock.ge
  | passed traffic hle => exact hle

/-- A controller that waits for its models forever takes up nothing else. -/
theorem Goes.stage_eq_stalled (h : Goes c c') (hstalled : c.stage = .stalled) :
    c'.stage = .stalled := by
  cases h with
  | supervised h =>
      unfold supervise? at h
      rw [hstalled] at h
      cases h
  | acted h => rw [(sameWatch_of_act? h).stage, hstalled]
  | noticed kind id => rw [(sameWatch_objectChanged c kind id).stage, hstalled]
  | passed traffic hle => exact hstalled

theorem tenure_eq_of_goesOn (h : GoesOn c c') : c'.tenure = c.tenure := by
  induction h with
  | refl => rfl
  | tail _ hstep ih => exact hstep.tenure_eq.trans ih

theorem clock_le_of_goesOn (h : GoesOn c c') : c.clock ≤ c'.clock := by
  induction h with
  | refl => exact le_rfl
  | tail _ hstep ih => exact ih.trans hstep.clock_le

theorem stage_eq_stalled_of_goesOn (h : GoesOn c c') (hstalled : c.stage = .stalled) :
    c'.stage = .stalled := by
  induction h with
  | refl => exact hstalled
  | tail _ hstep ih => exact hstep.stage_eq_stalled ih

/-- Once a controller has to stop, this stays so. -/
theorem isOver_of_goesOn (h : GoesOn c c') (hover : c.tenure.isOver c.clock = true) :
    c'.tenure.isOver c'.clock = true := by
  rw [tenure_eq_of_goesOn h]
  exact Tenure.isOver_mono (clock_le_of_goesOn h) hover

/-! ### What such steps make up -/

theorem lt_of_arrived?_eq_none {now time : Duration} {passes : List WaitingPass}
    (h : arrived? now passes = none) {pass : WaitingPass} (hpass : pass ∈ passes)
    (harrival : pass.transit.arrival = some time) : now < time := by
  induction passes with
  | nil => cases hpass
  | cons first rest ih =>
      unfold arrived? at h
      split_ifs at h with hfirst
      have hrest := Option.map_eq_none_iff.1 h
      cases hpass with
      | head =>
          rw [harrival] at hfirst
          simpa using hfirst
      | tail _ hmem => exact ih hrest hmem

theorem lt_of_due?_eq_none {schedule : Schedule} {free : ObjectId → Bool} {now time : Duration}
    (h : schedule.due? free now = none) (hnext : schedule.next? free = some time) : now < time := by
  obtain ⟨entry, hentry, rfl⟩ := List.mem_map.1 (List.min?_mem hnext)
  have hlate := List.find?_eq_none.1 (Option.map_eq_none_iff.1 h) entry hentry
  simpa using hlate

/-- Where nothing is left to do, the next thing to do lies ahead. -/
theorem clock_lt_of_nextTime? {time : Duration} (hact : c.act? = none)
    (hnext : c.nextTime? = some time) : c.clock < time := by
  unfold act? at hact
  split at hact
  · cases hact
  · next harrived =>
      rcases List.mem_append.1 (List.min?_mem hnext) with hwaiting | hschedule
      · obtain ⟨pass, hpass, harrival⟩ := List.mem_filterMap.1 hwaiting
        exact lt_of_arrived?_eq_none harrived hpass harrival
      · exact lt_of_due?_eq_none (Option.map_eq_none_iff.1 hact) (Option.mem_toList.1 hschedule)

theorem goesOn_runUntil {time : Duration} (steps : Nat) (h : c.clock ≤ time) :
    GoesOn c (runUntil time steps c) := by
  -- The clock never goes beyond the time up to which the controller runs.
  induction steps generalizing c with
  | zero => exact .refl
  | succ steps ih =>
      unfold runUntil
      split
      · next c' hstep =>
          rcases Option.or_eq_some_iff.1 hstep with hlook | ⟨-, hact⟩
          · have hclock := (supervision_of_supervise? hlook).clock_eq
            exact .head (.supervised hlook) (ih (hclock.trans_le h))
          · have hclock := (sameWatch_of_act? hact).clock
            exact .head (.acted hact) (ih (hclock.trans_le h))
      · next hidle =>
          split
          · next next hnext =>
              obtain ⟨hnext, hle⟩ := Option.filter_eq_some_iff.1 hnext
              have hact : c.act? = none := (Option.or_eq_none_iff.1 hidle).2
              have hlt := clock_lt_of_nextTime? hact hnext
              exact .head (.passed c _ hlt.le) (ih (of_decide_eq_true hle))
          · exact .single (.passed c _ h)

/-- All that a controller does while some time goes by. -/
theorem goesOn_advance (c : Controller) (span : Duration) : GoesOn c (c.advance span) :=
  goesOn_runUntil _ (Nat.le_add_right _ _)

/-- An object that someone else creates or replaces. -/
theorem goesOn_put? {j : Json} (h : c.put? j = some c') : GoesOn c c' := by
  simp only [put?, Option.bind_eq_bind, Option.bind_eq_some_iff] at h
  obtain ⟨cluster, -, kindJson, -, kindText, -, kind, -, metadataJson, -, metadata, -, hput⟩ := h
  have hwritten : Goes c { c with traffic := { c.traffic with cluster } } := .passed c _ le_rfl
  rw [← Option.some.inj hput]
  exact .tail (.single hwritten) (.noticed _ kind metadata.id)

/-- An object that someone else deletes. -/
theorem goesOn_delete (c : Controller) (kind : ObjectKind) (id : ObjectId) :
    GoesOn c (c.delete kind id) := by
  have hwritten : Goes c { c with traffic := { c.traffic with
      cluster := c.traffic.cluster.delete kind id c.traffic.now } } := .passed c _ le_rfl
  unfold delete
  split
  · exact .tail (.single hwritten) (.noticed _ kind id)
  · exact .refl

/-! ## Starts and stops -/

/-- A look at the tenure that begins the work, even if it is stopped at once. -/
structure Starts (c c' : Controller) : Prop where
  look : c.supervise? = some c'
  idle : c.stage = .idle
  running : c'.isRunning = true

/-- A look at the tenure that stops the work. -/
structure Stops (c c' : Controller) : Prop where
  look : c.supervise? = some c'
  active : c.stage = .active

theorem Starts.cases (h : Starts c c') :
    c.tenure.isGranted c.clock = true ∧
      (c.tenure.isOver c.clock = false ∧ c'.stage = .active ∨
        c.tenure.isFinal c.clock = false ∧ c.tenure.isOver c.clock = true ∧ c'.stage = .stalled) := by
  obtain ⟨hlook, hidle, hrunning⟩ := h
  cases supervision_of_supervise? hlook with
  | ended _ hfinal => cases hrunning
  | stalled _ hfinal hgranted hover => exact ⟨hgranted, Or.inr ⟨hfinal, hover, rfl⟩⟩
  | begun _ hgranted hover => exact ⟨hgranted, Or.inl ⟨hover, rfl⟩⟩
  | stopped hactive _ => nomatch hidle.symm.trans hactive
  | rested hstopping _ => nomatch hidle.symm.trans hstopping

theorem Stops.isOver (h : Stops c c') : c.tenure.isOver c.clock = true := by
  obtain ⟨hlook, hactive⟩ := h
  cases supervision_of_supervise? hlook with
  | stopped _ hover => exact hover
  | ended hidle _ => nomatch hactive.symm.trans hidle
  | stalled hidle _ _ _ => nomatch hactive.symm.trans hidle
  | begun hidle _ _ => nomatch hactive.symm.trans hidle
  | rested hstopping _ => nomatch hactive.symm.trans hstopping

variable {c₀ c₁ c₂ c₃ : Controller} {host : String} {channel : ClaimChannel} {drained : Bool}

/-- Without a new claim, what a claim has started is stopped no sooner than the claim runs out. -/
theorem expiry_le_of_stops (htenure : c₀.tenure = .whileClaimed host channel drained)
    (hstarts : Starts c₀ c₁) (hgoes : GoesOn c₁ c₂) (hstops : Stops c₂ c₃) :
    channel.claim.expiry ≤ c₂.clock := by
  obtain ⟨hgranted, ⟨hkept, -⟩ | ⟨-, -, hstalled⟩⟩ := hstarts.cases
  · have htenure₂ : c₂.tenure = .whileClaimed host channel drained := by
      rw [tenure_eq_of_goesOn hgoes, (supervision_of_supervise? hstarts.look).tenure_eq, htenure]
    have hover := hstops.isOver
    rw [htenure, Tenure.isGranted_whileClaimed_iff] at hgranted
    rw [htenure, ← Bool.not_eq_true, Tenure.isOver_whileClaimed_iff] at hkept
    rw [htenure₂, Tenure.isOver_whileClaimed_iff] at hover
    -- Nothing but the time can have changed what the start has seen.
    have hlost : channel.claim.isCurrentFor host c₂.clock = false := by
      rcases hover with hdrained | hlost | hclosed
      · exact absurd (Or.inl hdrained) hkept
      · exact hlost
      · exact absurd (Or.inr (Or.inr hclosed)) hkept
    unfold Claim.isCurrentFor at hgranted hlost
    rw [Bool.and_eq_true] at hgranted
    rw [hgranted.2, Bool.and_true, decide_eq_false_iff_not] at hlost
    exact not_lt.1 hlost
  · have hactive := hstops.active
    rw [stage_eq_stalled_of_goesOn hgoes hstalled] at hactive
    cases hactive

/-- Without a new claim, what was stopped starts again only behind a channel that was closed while
its claim is current. -/
theorem closed_of_restarts (htenure : c₀.tenure = .whileClaimed host channel drained)
    (hstops : Stops c₀ c₁) (hgoes : GoesOn c₁ c₂) (hstarts : Starts c₂ c₃) :
    channel.closed = true ∧ channel.claim.isCurrentFor host c₂.clock = true ∧
      c₃.stage = .stalled := by
  have hlook := supervision_of_supervise? hstops.look
  have htenure₂ : c₂.tenure = .whileClaimed host channel drained := by
    rw [tenure_eq_of_goesOn hgoes, hlook.tenure_eq, htenure]
  have hover : c₂.tenure.isOver c₂.clock = true := by
    refine isOver_of_goesOn hgoes ?_
    rw [hlook.tenure_eq, hlook.clock_eq]
    exact hstops.isOver
  obtain ⟨hgranted, ⟨hkept, -⟩ | ⟨hfinal, -, hstalled⟩⟩ := hstarts.cases
  · rw [hover] at hkept
    cases hkept
  · rw [htenure₂, Tenure.isGranted_whileClaimed_iff] at hgranted
    rw [htenure₂, Tenure.isOver_whileClaimed_iff] at hover
    rw [htenure₂, ← Bool.not_eq_true, Tenure.isFinal_whileClaimed_iff] at hfinal
    refine ⟨?_, hgranted, hstalled⟩
    -- A drained controller would have ended, and a claim that ran out is not granted.
    rcases hover with hdrained | hlost | hclosed
    · exact absurd (Or.inl hdrained) hfinal
    · rw [hgranted] at hlost
      cases hlost
    · exact hclosed

/-- Behind a closed channel a controller that waits comes to an end, unless the claim is current. -/
theorem supervise?_of_closed (htenure : c.tenure = .whileClaimed host channel false)
    (hclosed : channel.closed = true) (hidle : c.stage = .idle) :
    c.supervise? = some { c with
      stage := if channel.claim.isCurrentFor host c.clock then .stalled else .ended } := by
  unfold supervise?
  rw [hidle, htenure]
  dsimp only
  by_cases hcurrent : channel.claim.isCurrentFor host c.clock = true
  · have hgranted : (Tenure.whileClaimed host channel false).isGranted c.clock = true :=
      Tenure.isGranted_whileClaimed_iff.2 hcurrent
    have hover : (Tenure.whileClaimed host channel false).isOver c.clock = true :=
      Tenure.isOver_whileClaimed_iff.2 (Or.inr (Or.inr hclosed))
    have hfinal : ¬ (Tenure.whileClaimed host channel false).isFinal c.clock = true := by
      rw [Tenure.isFinal_whileClaimed_iff, hcurrent]
      simp
    rw [if_neg hfinal, if_neg (by simp [hgranted]), if_pos hover, if_pos hcurrent]
  · have hfinal : (Tenure.whileClaimed host channel false).isFinal c.clock = true :=
      Tenure.isFinal_whileClaimed_iff.2 (Or.inr ⟨hclosed, eq_false_of_ne_true hcurrent⟩)
    rw [if_pos hfinal, if_neg hcurrent]

end Controller

open ClaimChannel (after)
open Controller (GoesOn Starts Stops)

/-- How a controller takes turns between waiting for a claim and waiting for its loss, behind a
history of claims. -/
structure TakesTurns (host : String) (first : Claim) (sent : List Claim) (dropped : Bool) :
    Prop where
  /-- Exactly one of the two waits ends at once, unless the sender is gone while the last claim is
  current. -/
  waiters : ∀ now,
    ((after first sent dropped).AcquiredAtOnce host now ↔
      ¬ (after first sent dropped).LostAtOnce host now) ↔
    ¬ (dropped = true ∧ (sent.getLastD first).isCurrentFor host now = true)
  /-- Without a new claim a controller goes on: while time goes by, and when others create, replace
  or delete an object. -/
  goes_on : ∀ c : Controller, (∀ span, GoesOn c (c.advance span)) ∧
    (∀ j c', c.put? j = some c' → GoesOn c c') ∧ ∀ kind id, GoesOn c (c.delete kind id)
  /-- What was started is not stopped then before the claim runs out. -/
  stops : ∀ (c₀ c₁ c₂ c₃ : Controller) (drained : Bool),
    c₀.tenure = .whileClaimed host (after first sent dropped) drained →
    Starts c₀ c₁ → GoesOn c₁ c₂ → Stops c₂ c₃ → (sent.getLastD first).expiry ≤ c₂.clock
  /-- And what was stopped is not started again, with the same exception. -/
  restarts : ∀ (c₀ c₁ c₂ c₃ : Controller) (drained : Bool),
    c₀.tenure = .whileClaimed host (after first sent dropped) drained →
    Stops c₀ c₁ → GoesOn c₁ c₂ → Starts c₂ c₃ →
    dropped = true ∧ (sent.getLastD first).isCurrentFor host c₂.clock = true ∧
      c₃.stage = .stalled
  /-- Once the sender is gone, a controller that waits for the claim comes to an end, or in the
  exceptional case is started and stopped at once. -/
  closed : dropped = true → ∀ c : Controller,
    c.tenure = .whileClaimed host (after first sent dropped) false → c.stage = .idle →
    c.supervise? = some { c with
      stage := if (sent.getLastD first).isCurrentFor host c.clock then .stalled else .ended }
  /-- Then it never comes to an end. -/
  stuck : ∀ c c' : Controller, c.stage = .stalled → GoesOn c c' → c'.isRunning = true

/-- Controllers take turns like this behind all histories of claims. -/
theorem takesTurns_of_history (host : String) (first : Claim) (sent : List Claim)
    (dropped : Bool) : TakesTurns host first sent dropped where
  waiters := by
    intro now
    rw [ClaimChannel.after_eq]
    exact ClaimChannel.waiters_agree_iff
  goes_on c := ⟨Controller.goesOn_advance c, fun _ _ hput => Controller.goesOn_put? hput,
    Controller.goesOn_delete c⟩
  stops := by
    intro c₀ c₁ c₂ c₃ drained htenure hstarts hgoes hstops
    rw [ClaimChannel.after_eq] at htenure
    exact Controller.expiry_le_of_stops htenure hstarts hgoes hstops
  restarts := by
    intro c₀ c₁ c₂ c₃ drained htenure hstops hgoes hstarts
    rw [ClaimChannel.after_eq] at htenure
    exact Controller.closed_of_restarts htenure hstops hgoes hstarts
  closed := by
    intro hdropped c htenure hidle
    rw [ClaimChannel.after_eq] at htenure
    exact Controller.supervise?_of_closed htenure hdropped hidle
  stuck := by
    intro c c' hstalled hgoes
    unfold Controller.isRunning
    rw [Controller.stage_eq_stalled_of_goesOn hgoes hstalled]

end ModelGate

import ModelGate.Proofs.Decide.Staleness

/-!
# Every request counts once

`DecisionResponse.outcome?` reads off a response of an endpoint the outcome that it reports.  A
request to an endpoint is answered by one response and adds one to one counter, which is that of the
reported outcome; any other request is told so and changes no counter.  Hence the counters of an
endpoint add up to the requests to it.

There is one exception.  A tier that is not in the cache cannot be answered once its time to live
would end beyond the last second that a clock can show: such a request gets no response and is not
counted.  `requests_are_accounted` has these requests on the other side of the balance, and says
that there are none before that time.
-/

namespace ModelGate

/-! ## Counters -/

/-- Counting a key adds one to its own count and nothing to the others. -/
theorem Tally.count?_bump {α : Type} [DecidableEq α] (key other : α) (tallies : List (Tally α)) :
    count? other (bump key tallies) = count? other tallies + if other = key then 1 else 0 := by
  unfold count?
  induction tallies with
  | nil =>
      by_cases h : key = other
      · simp [bump, h]
      · simp [bump, h, Ne.symm h]
  | cons t rest ih =>
      unfold bump
      by_cases hkey : t.key = key
      · rw [if_pos hkey]
        by_cases h : key = other
        · simp [hkey, h]
        · simp [hkey, h, Ne.symm h]
      · rw [if_neg hkey]
        by_cases h : t.key = other
        · have hne : other ≠ key := fun hother => hkey (h.trans hother)
          simp [h, hne]
        · simpa [h] using ih

instance : Fintype DecisionOutcome where
  elems := {.tier, .noTier, .allowed, .denied, .badRequest, .notFound, .methodNotAllowed, .timeout,
    .tooLarge, .error}
  complete := by
    intro outcome
    cases outcome <;> decide

/-- The sum of the counters of an endpoint. -/
def Endpoint.total (endpoint : Endpoint) (counts : List (Tally (Endpoint × DecisionOutcome))) :
    Nat :=
  ∑ outcome, Tally.count? (endpoint, outcome) counts

theorem Endpoint.path_eq_path_iff {endpoint other : Endpoint} :
    endpoint.path = other.path ↔ endpoint = other := by
  cases endpoint <;> cases other <;> decide

theorem Endpoint.atPath?_eq_some_iff {path : String} {endpoint : Endpoint} :
    atPath? path = some endpoint ↔ path = endpoint.path := by
  unfold atPath?
  constructor
  · intro h
    have hpath := List.find?_some h
    exact (beq_iff_eq.1 hpath).symm
  · rintro rfl
    cases endpoint <;> decide

/-! ## Outcomes -/

/-- The outcome that a response of an endpoint reports. -/
def DecisionResponse.outcome? (r : DecisionResponse) (endpoint : Endpoint) :
    Option DecisionOutcome :=
  match r.status with
  | 200 =>
    match endpoint with
    | .tiersLookup => some (if (r.body.member? "tier").isSome then .tier else .noTier)
    | .modelsAuthorize =>
      ((r.body.member? "allowed").bind Json.bool?).map fun allowed =>
        if allowed then .allowed else .denied
  | 400 => some .badRequest
  | 404 => some .notFound
  | 405 => some .methodNotAllowed
  | 408 => some .timeout
  | 413 => some .tooLarge
  | 500 => some .error
  | _ => none

theorem DecisionResponse.outcome?_ofTier (tier : Option Tier) :
    (ofTier tier).outcome? .tiersLookup = some (if tier.isSome then .tier else .noTier) := by
  cases tier with
  | none => rfl
  | some tier => rfl

theorem DecisionResponse.outcome?_ofDecision (decision : Access.Decision) :
    (ofDecision decision).outcome? .modelsAuthorize =
      some (if decision.allowed then .allowed else .denied) := by
  obtain ⟨allowed, reason⟩ := decision
  cases reason <;> rfl

/-- The status and the outcome of a refusal say the same. -/
def Rejection.IsConsistent (r : Rejection) : Prop :=
  ∀ endpoint, (DecisionResponse.error r.status r.message).outcome? endpoint = some r.outcome ∧
    r.status ≠ 405

namespace Rejection

theorem isConsistent_badRequest (message : String) : (badRequest message).IsConsistent :=
  fun _ => ⟨rfl, by simp [badRequest]⟩

theorem isConsistent_ofBody (error : BodyError) : (ofBody error).IsConsistent := by
  intro endpoint
  cases error <;> exact ⟨rfl, by simp [ofBody, badRequest]⟩

theorem isConsistent_ofAuthorize (error : Access.AuthorizeError) :
    (ofAuthorize error).IsConsistent := by
  intro endpoint
  cases error <;> exact ⟨rfl, by simp [ofAuthorize, badRequest]⟩

end Rejection

namespace DecisionService

variable {setup : ServiceSetup} {events : List ServiceEvent} {s s' : DecisionService}
  {endpoint : Endpoint} {request : DecisionRequest}

theorem isConsistent_of_decide {question : ModelQuestion} {r : Rejection}
    (h : s.decide question = .error r) : r.IsConsistent := by
  unfold decide at h
  split at h
  · cases h
    exact Rejection.isConsistent_badRequest _
  · split at h
    · cases h
      exact Rejection.isConsistent_badRequest _
    · split at h
      · cases h
      · cases h
        exact Rejection.isConsistent_ofAuthorize _

/-! ## Single requests -/

/-- A response that counts: one more under the outcome that it reports.  Only where the method is
refused it says which one is allowed. -/
structure IsCounted (endpoint : Endpoint) (outcome : DecisionOutcome) (s s' : DecisionService)
    (response : DecisionResponse) : Prop where
  reported : response.outcome? endpoint = some outcome
  allow_eq : response.allow = if response.status = 405 then some "POST" else none
  count_eq : ∀ key, Tally.count? key s'.counts =
    Tally.count? key s.counts + if key = (endpoint, outcome) then 1 else 0

/-- A request is answered and counted, or sent away without being counted, or it gets no answer. -/
inductive Accounted (s : DecisionService) (request : DecisionRequest) :
    Except ExpiryError DecisionResponse × DecisionService → Prop
  | elsewhere {response : DecisionResponse} {s' : DecisionService}
      (hpath : ∀ endpoint : Endpoint, request.path ≠ endpoint.path)
      (hstatus : response.status = 404) (hcounts : s'.counts = s.counts) :
      Accounted s request (.ok response, s')
  | counted {endpoint : Endpoint} {outcome : DecisionOutcome} {response : DecisionResponse}
      {s' : DecisionService} (hpath : request.path = endpoint.path)
      (h : IsCounted endpoint outcome s s' response) : Accounted s request (.ok response, s')
  /-- A tier that is not in the cache, and whose time to live would never end on a clock. -/
  | unanswered {groups : List String} {s' : DecisionService}
      (hasks : request.AsksTier s.readTimeout groups)
      (hfresh : s.cache.fresh? (.ofGroups groups) s'.now = none)
      (hlate : 2 ^ 63 ≤ (s'.now + s.cache.ttl).seconds) (hcounts : s'.counts = s.counts) :
      Accounted s request (.error .unrepresentable, s')

theorem isCounted_reject (s : DecisionService) (endpoint : Endpoint) {r : Rejection}
    (h : r.IsConsistent) :
    IsCounted endpoint r.outcome s (s.reject endpoint r).2 (s.reject endpoint r).1 where
  reported := (h endpoint).1
  allow_eq := (if_neg (h endpoint).2).symm
  count_eq := fun key => Tally.count?_bump (endpoint, r.outcome) key s.counts

theorem isCounted_authorizeModel (s : DecisionService) (bytes : List UInt8) :
    ∃ outcome, IsCounted .modelsAuthorize outcome s (s.authorizeModel bytes).2
      (s.authorizeModel bytes).1 := by
  unfold authorizeModel
  cases ModelQuestion.ofBytes? bytes with
  | none => exact ⟨_, isCounted_reject s _ (Rejection.isConsistent_badRequest _)⟩
  | some question =>
      dsimp only
      cases hdecide : s.decide question with
      | error r => exact ⟨_, isCounted_reject s _ (isConsistent_of_decide hdecide)⟩
      | ok decision =>
          exact ⟨_, DecisionResponse.outcome?_ofDecision decision, rfl,
            fun key => Tally.count?_bump _ key s.counts⟩

/-- A body that asks for a tier is answered, unless the answer cannot be kept. -/
theorem isCounted_or_unanswered_lookupTier (s : DecisionService) (bytes : List UInt8) :
    (∃ response outcome, (s.lookupTier bytes).1 = .ok response ∧
        IsCounted .tiersLookup outcome s (s.lookupTier bytes).2 response) ∨
      ∃ groups, TierQuestion.ofBytes? bytes = some ⟨groups⟩ ∧
        s.cache.fresh? (.ofGroups groups) s.now = none ∧
        2 ^ 63 ≤ (s.now + s.cache.ttl).seconds ∧
        (s.lookupTier bytes).1 = .error .unrepresentable ∧
        (s.lookupTier bytes).2.counts = s.counts ∧ (s.lookupTier bytes).2.now = s.now := by
  cases hquestion : TierQuestion.ofBytes? bytes with
  | none =>
      unfold lookupTier
      simp only [hquestion]
      exact Or.inl ⟨_, _, rfl, isCounted_reject s _ (Rejection.isConsistent_badRequest _)⟩
  | some question =>
      cases hresolve : s.cache.resolve s.tiers.mapping s.now (.ofGroups question.groups) with
      | mk outcome cache =>
          cases outcome with
          | error error =>
              have hfailed : (s.cache.resolve s.tiers.mapping s.now
                  (.ofGroups question.groups)).1 = .error error := by
                rw [hresolve]
              obtain ⟨hfresh, hlate⟩ := TierCache.resolve_eq_error_iff.1 hfailed
              rw [lookupTier_of_error hquestion hresolve]
              exact Or.inr ⟨question.groups, rfl, hfresh, hlate, rfl, rfl, rfl⟩
          | ok tier =>
              rw [lookupTier_of_ok hquestion hresolve]
              exact Or.inl ⟨_, _, rfl, DecisionResponse.outcome?_ofTier tier, by cases tier <;> rfl,
                fun key => Tally.count?_bump _ key s.counts⟩

/-- Whatever the request is, it is accounted for. -/
theorem accounted_handle (s : DecisionService) (request : DecisionRequest) :
    Accounted s request (s.handle request) := by
  cases hendpoint : Endpoint.atPath? request.path with
  | none =>
      unfold handle
      simp only [hendpoint]
      refine .elsewhere ?_ rfl rfl
      intro endpoint hpath
      rw [Endpoint.atPath?_eq_some_iff.2 hpath] at hendpoint
      cases hendpoint
  | some endpoint =>
      have hpath : request.path = endpoint.path := Endpoint.atPath?_eq_some_iff.1 hendpoint
      unfold handle
      simp only [hendpoint]
      by_cases hpost : request.method = "POST"
      · rw [if_neg (not_not.2 hpost)]
        cases hread : (request.body.read s.readTimeout).outcome with
        | error error =>
            -- Waiting for the body changes no counter.
            obtain ⟨hreported, hallow, hcount⟩ :=
              isCounted_reject (s.wait (request.body.read s.readTimeout).took) endpoint
                (Rejection.isConsistent_ofBody error)
            exact .counted hpath ⟨hreported, hallow, hcount⟩
        | ok bytes =>
            cases endpoint with
            | modelsAuthorize =>
                obtain ⟨outcome, hreported, hallow, hcount⟩ := isCounted_authorizeModel
                  (s.wait (request.body.read s.readTimeout).took) bytes
                exact .counted hpath ⟨hreported, hallow, hcount⟩
            | tiersLookup =>
                change Accounted s request
                  ((s.wait (request.body.read s.readTimeout).took).lookupTier bytes)
                generalize hlookup :
                  (s.wait (request.body.read s.readTimeout).took).lookupTier bytes = behind
                obtain ⟨result, s'⟩ := behind
                have hanswer := isCounted_or_unanswered_lookupTier
                  (s.wait (request.body.read s.readTimeout).took) bytes
                rw [hlookup] at hanswer
                rcases hanswer with ⟨response, outcome, hresult, hreported, hallow, hcount⟩ |
                  ⟨groups, hquestion, hfresh, hlate, hresult, hcounts, hnow⟩
                · dsimp only at hresult
                  subst hresult
                  exact .counted hpath ⟨hreported, hallow, hcount⟩
                · dsimp only at hresult hnow
                  subst hresult
                  rw [← hnow] at hfresh hlate
                  exact .unanswered ⟨hpost, hpath, bytes, hread, hquestion⟩ hfresh hlate hcounts
      · rw [if_pos hpost]
        exact .counted hpath ⟨rfl, rfl, fun key => Tally.count?_bump _ key s.counts⟩

theorem IsCounted.total_eq {outcome : DecisionOutcome} {response : DecisionResponse}
    (h : IsCounted endpoint outcome s s' response) (other : Endpoint) :
    other.total s'.counts = other.total s.counts + if other = endpoint then 1 else 0 := by
  unfold Endpoint.total
  simp only [h.count_eq, Finset.sum_add_distrib, Prod.mk.injEq]
  by_cases hother : other = endpoint
  · simp [hother]
  · simp [hother]

/-! ## Whole runs -/

/-- The request of an event and what becomes of it. -/
def exchange? (s : DecisionService) :
    ServiceEvent → Option (DecisionRequest × Except ExpiryError DecisionResponse)
  | .asked request => some (request, (s.handle request).1)
  | _ => none

/-- The requests of a run and what became of them, in their order. -/
def exchanges (s : DecisionService) :
    List ServiceEvent → List (DecisionRequest × Except ExpiryError DecisionResponse)
  | [] => []
  | e :: rest =>
    (s.exchange? e).toList ++
      match s.step e with
      | .ok s' => s'.exchanges rest
      | .error _ => []

theorem exchanges_append_singleton (h : events.foldlM step s = .ok s') (e : ServiceEvent) :
    s.exchanges (events ++ [e]) = s.exchanges events ++ (s'.exchange? e).toList := by
  induction events generalizing s with
  | nil =>
      cases h
      simp only [exchanges, List.nil_append]
      split <;> simp
  | cons first rest ih =>
      rw [List.foldlM_cons] at h
      simp only [exchanges, List.cons_append, List.append_assoc]
      cases hstep : s.step first with
      | error error =>
          rw [hstep] at h
          cases h
      | ok next =>
          rw [hstep] at h
          dsimp only
          rw [ih h]

/-- Whether a request was sent to an endpoint and got no answer. -/
def isUnanswered (endpoint : Endpoint)
    (exchange : DecisionRequest × Except ExpiryError DecisionResponse) : Bool :=
  exchange.1.path == endpoint.path && !exchange.2.isOk

/-- The number of requests to an endpoint that got no answer. -/
def unanswered (setup : ServiceSetup) (endpoint : Endpoint) (events : List ServiceEvent) : Nat :=
  ((start setup).exchanges events).countP (isUnanswered endpoint)

end DecisionService

/-- Whether an event is a request to an endpoint. -/
def ServiceEvent.isTo (endpoint : Endpoint) : ServiceEvent → Bool
  | asked request => request.path == endpoint.path
  | _ => false

namespace DecisionService

variable {setup : ServiceSetup} {events : List ServiceEvent} {s s' : DecisionService}
  {endpoint : Endpoint} {request : DecisionRequest}

theorem unanswered_append_singleton (h : run setup events = .ok s) (e : ServiceEvent) :
    unanswered setup endpoint (events ++ [e]) =
      unanswered setup endpoint events +
        (s.exchange? e).toList.countP (isUnanswered endpoint) := by
  unfold unanswered
  rw [exchanges_append_singleton h, List.countP_append]

/-- Every event keeps the balance between the counters and the requests. -/
theorem total_of_stepped {e : ServiceEvent} (h : Stepped s e s') (endpoint : Endpoint) :
    endpoint.total s'.counts + (s.exchange? e).toList.countP (isUnanswered endpoint) =
      endpoint.total s.counts + [e].countP (·.isTo endpoint) := by
  cases h with
  | asked request =>
      have haccounted := accounted_handle s request
      generalize hhandle : s.handle request = behind at haccounted
      have hexchange : s.exchange? (.asked request) = some (request, behind.1) := by
        rw [exchange?, hhandle]
      rw [hexchange]
      cases haccounted with
      | elsewhere hpath hstatus hcounts =>
          simp [isUnanswered, ServiceEvent.isTo, hpath endpoint, hcounts]
      | @counted addressed outcome response s' hpath hcounted =>
          rw [hcounted.total_eq]
          by_cases hendpoint : endpoint = addressed
          · simp [isUnanswered, ServiceEvent.isTo, hpath, hendpoint, Except.isOk, Except.toBool]
          · have hother : ¬ addressed.path = endpoint.path := by
              rw [Endpoint.path_eq_path_iff]
              exact Ne.symm hendpoint
            simp [isUnanswered, ServiceEvent.isTo, hpath, hendpoint, hother]
      | unanswered hasks hfresh hlate hcounts =>
          -- What is missing from the counters is what got no answer.
          simp [isUnanswered, ServiceEvent.isTo, hcounts, Except.isOk, Except.toBool,
            List.countP_cons]
  | _ => simp [exchange?, ServiceEvent.isTo]

/-- A request that gets no answer asks for a tier beyond the last second of a clock. -/
theorem late_of_isUnanswered {e : ServiceEvent} (h : Stepped s e s')
    (hun : (s.exchange? e).toList.countP (isUnanswered endpoint) ≠ 0) :
    endpoint = .tiersLookup ∧ 2 ^ 63 ≤ (s'.now + s.cache.ttl).seconds := by
  cases h with
  | asked request =>
      have haccounted := accounted_handle s request
      generalize hhandle : s.handle request = behind at haccounted ⊢
      have hexchange : s.exchange? (.asked request) = some (request, behind.1) := by
        rw [exchange?, hhandle]
      rw [hexchange] at hun
      cases haccounted with
      | elsewhere hpath hstatus hcounts => simp [isUnanswered, Except.isOk, Except.toBool] at hun
      | counted hpath hcounted => simp [isUnanswered, Except.isOk, Except.toBool] at hun
      | unanswered hasks hfresh hlate hcounts =>
          have hpath : Endpoint.path .tiersLookup = endpoint.path := by
            rw [← show request.path = Endpoint.path .tiersLookup from hasks.atEndpoint]
            simpa [isUnanswered, Except.isOk, Except.toBool] using hun
          exact ⟨(Endpoint.path_eq_path_iff.1 hpath).symm, hlate⟩
  | _ => simp [exchange?] at hun

theorem total_of_run (h : run setup events = .ok s) (endpoint : Endpoint) :
    endpoint.total s.counts + unanswered setup endpoint events =
      events.countP (·.isTo endpoint) := by
  refine (run_induction (motive := fun events s => run setup events = .ok s ∧
    endpoint.total s.counts + unanswered setup endpoint events =
      events.countP (·.isTo endpoint)) ⟨rfl, ?_⟩ ?_ h).2
  · simp [start, new, Endpoint.total, Tally.count?, unanswered, exchanges]
  · rintro events e s s' hrun' hstepped ⟨hrun, ih⟩
    refine ⟨hrun', ?_⟩
    have hstep := total_of_stepped hstepped endpoint
    rw [unanswered_append_singleton hrun, List.countP_append]
    omega

/-- Requests about models are always answered, and all others as long as a time to live ends before
the last second of a clock. -/
theorem unanswered_eq_zero (h : run setup events = .ok s)
    (hearly : endpoint = .modelsAuthorize ∨ (s.now + setup.ttl).seconds < 2 ^ 63) :
    unanswered setup endpoint events = 0 := by
  refine (run_induction (motive := fun events s => run setup events = .ok s ∧
    (endpoint = .modelsAuthorize ∨ (s.now + setup.ttl).seconds < 2 ^ 63 →
      unanswered setup endpoint events = 0)) ⟨rfl, fun _ => rfl⟩ ?_ h).2 hearly
  rintro events e s s' hrun' hstepped ⟨hrun, ih⟩
  refine ⟨hrun', ?_⟩
  intro hearly
  -- What was early enough at the end was early enough before.
  have hbefore : (s.now + setup.ttl).seconds ≤ (s'.now + setup.ttl).seconds :=
    Nat.div_le_div_right (Nat.add_le_add_right (cacheStep_of_stepped hstepped).now_le _)
  have hlast : (s.exchange? e).toList.countP (isUnanswered endpoint) = 0 := by
    by_contra hun
    obtain ⟨htiers, hlate⟩ := late_of_isUnanswered hstepped hun
    rw [ttl_of_run hrun] at hlate
    rcases hearly with hmodels | hearly
    · rw [htiers] at hmodels
      cases hmodels
    · omega
  rw [unanswered_append_singleton hrun, hlast, ih]
  rcases hearly with hmodels | hearly
  · exact Or.inl hmodels
  · exact Or.inr (by omega)

/-- After any events on named objects, every request is accounted for, and for each endpoint the
counters and the requests without an answer add up to the requests to it.  Requests about models
are always answered, and so are all requests until a time to live would end beyond the last second
that a clock can show. -/
theorem requests_are_accounted (setup : ServiceSetup) (hnamed : ∀ e ∈ events, e.IsNamed) :
    ∃ s, run setup events = .ok s ∧ (∀ request, Accounted s request (s.handle request)) ∧
      ∀ endpoint : Endpoint,
        endpoint.total s.counts + unanswered setup endpoint events =
          events.countP (·.isTo endpoint) ∧
        (endpoint = .modelsAuthorize ∨ (s.now + setup.ttl).seconds < 2 ^ 63 →
          unanswered setup endpoint events = 0) := by
  obtain ⟨s, hrun⟩ := run_of_isNamed setup hnamed
  exact ⟨s, hrun, accounted_handle s,
    fun endpoint => ⟨total_of_run hrun endpoint, unanswered_eq_zero hrun⟩⟩

/-- Tiers are kept for as long as the setting of their time to live can say. -/
def keptForever : ServiceSetup :=
  ⟨⟨"maas", "tiers"⟩, .ofSeconds (UInt64.size - 1), 10, 5⟩

/-- A member who asks for its tier then gets no answer, and no counter shows the request. -/
theorem member_is_not_counted :
    ∃ s, run keptForever [.asked memberAsks] = .ok s ∧
      unanswered keptForever .tiersLookup [.asked memberAsks] = 1 ∧
      Endpoint.total .tiersLookup s.counts = 0 ∧ Accounted s memberAsks (s.handle memberAsks) := by
  have hnamed : ∀ e ∈ [ServiceEvent.asked memberAsks], e.IsNamed := by
    simp [ServiceEvent.IsNamed]
  obtain ⟨s, hrun, haccounted, hbalance⟩ := requests_are_accounted keptForever hnamed
  have hunanswered : unanswered keptForever .tiersLookup [.asked memberAsks] = 1 := by
    cbv
  have htotal := (hbalance .tiersLookup).1
  have haddressed : [ServiceEvent.asked memberAsks].countP (·.isTo .tiersLookup) = 1 := by
    decide
  rw [hunanswered, haddressed] at htotal
  exact ⟨s, hrun, hunanswered, by omega, haccounted memberAsks⟩

end DecisionService

end ModelGate

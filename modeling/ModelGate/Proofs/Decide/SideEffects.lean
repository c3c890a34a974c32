import ModelGate.Proofs.Decide.Accounting
import ModelGate.Proofs.Tier.Eviction

/-!
# What a request leaves behind

A request to the decision service takes its time and moves counters.  The only one that does more is
a question for a tier that has been read: it leaves the cache as the resolution of its identity does
(`Handled`).  So oversized, late, unreadable and misdirected requests and all questions about models
leave the indexes and the cache alone, whatever they are answered.

Services that differ in their counters only are alike, and no later request tells them apart
(`exchanges_of_alike`).  Hence everyone who asks after a request that leaves the cache alone is
answered as if that request had never been made.

A question for a tier may also fail, when no clock can show the end of its time to live.  It gets no
answer, yet it has made room in a full cache; `requests_leave_no_trace` says which entries are gone.
-/

namespace ModelGate

namespace DecisionService

variable {setup : ServiceSetup} {events : List ServiceEvent} {s s' t t' : DecisionService}
  {request : DecisionRequest}

/-! ## One request -/

/-- The request is a question for a tier, and it is answered. -/
structure LooksUp (s : DecisionService) (request : DecisionRequest) : Prop where
  isPost : request.method = "POST"
  atEndpoint : request.path = "/v1/tiers/lookup"
  isAnswered : ∃ response, (s.handle request).1 = .ok response ∧ response.status = 200

/-- What a request makes of a service, besides its answer. -/
inductive Handled (s : DecisionService) (request : DecisionRequest) :
    Except ExpiryError DecisionResponse × DecisionService → Prop
  /-- The request takes its time and is counted. -/
  | spared {response : DecisionResponse} {span : Duration}
      {counts : List (Tally (Endpoint × DecisionOutcome))}
      (hother : request.method = "POST" → request.path = "/v1/tiers/lookup" →
        response.status ≠ 200) :
      Handled s request (.ok response, { s.wait span with counts })
  /-- The cache resolves the identity that the request asks for. -/
  | resolved {groups : List String} {span : Duration} {result : Except ExpiryError (Option Tier)}
      {cache : TierCache} {counts : List (Tally (Endpoint × DecisionOutcome))}
      (hasks : request.AsksTier s.readTimeout groups)
      (hresolve : s.cache.resolve s.tiers.mapping (s.wait span).now (.ofGroups groups) =
        (result, cache)) :
      Handled s request (result.map .ofTier, { s.wait span with cache, counts })

theorem exists_authorizeModel_eq (s : DecisionService) (bytes : List UInt8) :
    ∃ response counts, s.authorizeModel bytes = (response, { s with counts }) := by
  unfold authorizeModel
  cases ModelQuestion.ofBytes? bytes with
  | none => exact ⟨_, _, rfl⟩
  | some question =>
      dsimp only
      cases s.decide question with
      | error rejection => exact ⟨_, _, rfl⟩
      | ok decision => exact ⟨_, _, rfl⟩

/-- A body that asks for a tier is answered by the cache, and any other one is refused. -/
theorem lookupTier_cases (s : DecisionService) (bytes : List UInt8) :
    (∃ response counts, s.lookupTier bytes = (.ok response, { s with counts }) ∧
        response.status ≠ 200) ∨
      ∃ groups result cache counts, TierQuestion.ofBytes? bytes = some ⟨groups⟩ ∧
        s.cache.resolve s.tiers.mapping s.now (.ofGroups groups) = (result, cache) ∧
        s.lookupTier bytes = (result.map .ofTier, { s with cache, counts }) := by
  cases hquestion : TierQuestion.ofBytes? bytes with
  | none =>
      unfold lookupTier
      simp only [hquestion]
      refine Or.inl ⟨_, _, rfl, ?_⟩
      simp [reject, DecisionResponse.error, Rejection.unreadable, Rejection.badRequest]
  | some question =>
      refine Or.inr ⟨question.groups, ?_⟩
      cases hresolve : s.cache.resolve s.tiers.mapping s.now (.ofGroups question.groups) with
      | mk result cache =>
          cases result with
          | error error =>
              exact ⟨_, _, _, rfl, rfl, lookupTier_of_error hquestion hresolve⟩
          | ok tier => exact ⟨_, _, _, rfl, rfl, lookupTier_of_ok hquestion hresolve⟩

theorem status_ofBody_ne (error : BodyError) : (Rejection.ofBody error).status ≠ 200 := by
  cases error <;> simp [Rejection.ofBody, Rejection.badRequest]

/-- There is nothing else that a request can do. -/
theorem handled_handle (s : DecisionService) (request : DecisionRequest) :
    Handled s request (s.handle request) := by
  cases hendpoint : Endpoint.atPath? request.path with
  | none =>
      unfold handle
      simp only [hendpoint]
      refine @Handled.spared s request _ 0 _ ?_
      intro _ (hpath : request.path = Endpoint.path .tiersLookup)
      rw [Endpoint.atPath?_eq_some_iff.2 hpath] at hendpoint
      cases hendpoint
  | some endpoint =>
      have hpath : request.path = endpoint.path := Endpoint.atPath?_eq_some_iff.1 hendpoint
      unfold handle
      simp only [hendpoint]
      by_cases hpost : request.method = "POST"
      · rw [if_neg (not_not.2 hpost)]
        cases hread : (request.body.read s.readTimeout).outcome with
        | error error => exact .spared fun _ _ => status_ofBody_ne error
        | ok bytes =>
            generalize hwaited : s.wait (request.body.read s.readTimeout).took = waited
            cases endpoint with
            | modelsAuthorize =>
                obtain ⟨response, counts, heq⟩ := exists_authorizeModel_eq waited bytes
                dsimp only [answer]
                rw [heq, ← hwaited]
                refine .spared ?_
                intro _ (hlookup : request.path = Endpoint.path .tiersLookup)
                exact absurd (Endpoint.path_eq_path_iff.1 (hlookup.symm.trans hpath)) (by decide)
            | tiersLookup =>
                dsimp only [answer]
                rcases lookupTier_cases waited bytes with ⟨response, counts, heq, hstatus⟩ |
                  ⟨groups, result, cache, counts, hquestion, hresolve, heq⟩
                · rw [heq, ← hwaited]
                  exact .spared fun _ _ => hstatus
                · rw [heq]
                  subst hwaited
                  exact .resolved ⟨hpost, hpath, bytes, hread, hquestion⟩ hresolve
      · rw [if_pos hpost]
        exact @Handled.spared s request _ 0 _ fun h => absurd h hpost

/-! ## Services that nobody can tell apart -/

/-- The services differ in their counters only. -/
structure Alike (s t : DecisionService) : Prop extends SameSources s t where
  cache : t.cache = s.cache
  now : t.now = s.now

theorem Alike.wait (h : Alike s t) (span : Duration) : Alike (s.wait span) (t.wait span) where
  models := h.models
  tiers := h.tiers
  readTimeout := h.readTimeout
  cache := h.cache
  now := congrArg (· + span) h.now

/-- The pairs of an answer and a service agree in the answer, and nobody can tell the services
apart. -/
def SameAnswer (a b : Except ExpiryError DecisionResponse × DecisionService) : Prop :=
  b.1 = a.1 ∧ Alike a.2 b.2

theorem Alike.lookupTier (h : Alike s t) (bytes : List UInt8) :
    SameAnswer (s.lookupTier bytes) (t.lookupTier bytes) := by
  obtain ⟨⟨hmodels, htiers, htimeout⟩, hcache, hnow⟩ := h
  unfold DecisionService.lookupTier
  rw [hcache, htiers, hnow]
  cases TierQuestion.ofBytes? bytes with
  | none => exact ⟨rfl, ⟨hmodels, htiers, htimeout⟩, hcache, hnow⟩
  | some question =>
      dsimp only
      split <;> exact ⟨rfl, ⟨hmodels, rfl, htimeout⟩, rfl, rfl⟩

theorem Alike.authorizeModel (h : Alike s t) (bytes : List UInt8) :
    (t.authorizeModel bytes).1 = (s.authorizeModel bytes).1 ∧
      Alike (s.authorizeModel bytes).2 (t.authorizeModel bytes).2 := by
  obtain ⟨⟨hmodels, htiers, htimeout⟩, hcache, hnow⟩ := h
  unfold DecisionService.authorizeModel
  cases ModelQuestion.ofBytes? bytes with
  | none => exact ⟨rfl, ⟨hmodels, htiers, htimeout⟩, hcache, hnow⟩
  | some question =>
      have hdecide : t.decide question = s.decide question := by
        unfold DecisionService.decide
        rw [hmodels]
      dsimp only
      rw [hdecide]
      cases s.decide question <;> exact ⟨rfl, ⟨hmodels, htiers, htimeout⟩, hcache, hnow⟩

/-- Services that are alike give the same answer and stay alike. -/
theorem Alike.handle (h : Alike s t) (request : DecisionRequest) :
    SameAnswer (s.handle request) (t.handle request) := by
  unfold DecisionService.handle
  cases Endpoint.atPath? request.path with
  | none => exact ⟨rfl, h⟩
  | some endpoint =>
      dsimp only
      by_cases hpost : request.method = "POST"
      · rw [if_neg (not_not.2 hpost), if_neg (not_not.2 hpost), h.readTimeout]
        have hwaited := h.wait (request.body.read s.readTimeout).took
        cases (request.body.read s.readTimeout).outcome with
        | error error =>
            exact ⟨rfl, ⟨hwaited.models, hwaited.tiers, hwaited.readTimeout⟩, hwaited.cache,
              hwaited.now⟩
        | ok bytes =>
            cases endpoint with
            | tiersLookup => exact hwaited.lookupTier bytes
            | modelsAuthorize =>
                obtain ⟨hanswer, halike⟩ := hwaited.authorizeModel bytes
                exact ⟨congrArg Except.ok hanswer, halike⟩
      · rw [if_pos hpost, if_pos hpost]
        exact ⟨rfl, ⟨h.models, h.tiers, h.readTimeout⟩, h.cache, h.now⟩

/-- An event finds its object named for both services or for none. -/
theorem Alike.step (h : Alike s t) (e : ServiceEvent) :
    (∃ error, s.step e = .error error ∧ t.step e = .error error) ∨
      ∃ s' t', s.step e = .ok s' ∧ t.step e = .ok t' ∧ Alike s' t' := by
  obtain ⟨⟨hmodels, htiers, htimeout⟩, hcache, hnow⟩ := h
  cases e with
  | model event =>
      cases event with
      | applied model =>
          simp only [DecisionService.step, applyModel, hmodels]
          cases s.models.apply model with
          | error error => exact Or.inl ⟨error, rfl, rfl⟩
          | ok index => exact Or.inr ⟨_, _, rfl, rfl, ⟨rfl, htiers, htimeout⟩, hcache, hnow⟩
      | deleted id =>
          refine Or.inr ⟨_, _, rfl, rfl, ⟨?_, htiers, htimeout⟩, hcache, hnow⟩
          exact congrArg (·.erase id.ns id.name) hmodels
  | mapApplied map =>
      simp only [DecisionService.step, applyMap, htiers]
      cases s.tiers.apply map with
      | error error => exact Or.inl ⟨error, rfl, rfl⟩
      | ok index => exact Or.inr ⟨_, _, rfl, rfl, ⟨hmodels, rfl, htimeout⟩, hcache, hnow⟩
  | mapDeleted id =>
      refine Or.inr ⟨_, _, rfl, rfl, ⟨hmodels, ?_, htimeout⟩, hcache, hnow⟩
      exact congrArg (·.erase id) htiers
  | waited span =>
      exact Or.inr ⟨_, _, rfl, rfl, Alike.wait ⟨⟨hmodels, htiers, htimeout⟩, hcache, hnow⟩ span⟩
  | asked request =>
      exact Or.inr ⟨_, _, rfl, rfl,
        (Alike.handle ⟨⟨hmodels, htiers, htimeout⟩, hcache, hnow⟩ request).2⟩

theorem Alike.exchange?_eq (h : Alike s t) (e : ServiceEvent) : t.exchange? e = s.exchange? e := by
  cases e with
  | asked request =>
      have hanswer := (h.handle request).1
      simp only [exchange?, hanswer]
  | _ => rfl

/-- Whatever happens next, services that are alike answer every request alike. -/
theorem exchanges_of_alike (h : Alike s t) (events : List ServiceEvent) :
    t.exchanges events = s.exchanges events := by
  induction events generalizing s t with
  | nil => rfl
  | cons e rest ih =>
      unfold exchanges
      rw [h.exchange?_eq e]
      rcases h.step e with ⟨error, hs, ht⟩ | ⟨s', t', hs, ht, halike⟩
      · rw [hs, ht]
      · rw [hs, ht]
        exact congrArg ((s.exchange? e).toList ++ ·) (ih halike)

/-! ## Requests in a run -/

theorem isKept_of_run (h : run setup events = .ok s) : s.cache.IsKept := by
  refine run_induction (motive := fun _ s => s.cache.IsKept) (TierCache.isKept_new _ _) ?_ h
  intro events e s s' _ hstepped hkept
  cases hstepped with
  | asked request =>
      have hhandled := handled_handle s request
      generalize s.handle request = behind at hhandled ⊢
      cases hhandled with
      | spared hother => exact hkept
      | @resolved groups span result cache counts hasks hresolve =>
          have hresolved := hkept.resolve s.tiers.mapping (s.wait span).now (.ofGroups groups)
          rw [hresolve] at hresolved
          exact hresolved
  | _ => exact hkept

/-- What a request leaves behind. -/
structure LeavesNoTrace (s : DecisionService) (request : DecisionRequest) : Prop where
  models_eq : (s.handle request).2.models = s.models
  tiers_eq : (s.handle request).2.tiers = s.tiers
  /-- Unless it is a question for a tier that is answered, or gets no answer at all, the cache stays
  as it is. -/
  cache_eq : ¬ s.LooksUp request → (s.handle request).1.isOk = true →
    (s.handle request).2.cache = s.cache
  /-- If the cache stays as it is, everyone who asks later is answered as if the same time had gone
  by without the request. -/
  same_answers : ∃ span, (s.handle request).2.now = (s.wait span).now ∧
    ((s.handle request).2.cache = s.cache →
      ∀ later, (s.handle request).2.exchanges later = (s.wait span).exchanges later)
  /-- What gets no answer is a question for a tier whose time to live would never end on a clock.  All
  that is left of it is the room that was made for it. -/
  unanswered : ∀ {error}, (s.handle request).1 = .error error →
    ∃ groups kept, request.AsksTier s.readTimeout groups ∧
      2 ^ 63 ≤ ((s.handle request).2.now + s.cache.ttl).seconds ∧
      TierCache.MakesRoom s.cache (.ofGroups groups) (s.handle request).2.now kept ∧
      (s.handle request).2.cache = { s.cache with entries := kept }

/-- After any run a request leaves the indexes alone, and unless it is a question for a tier that is
answered, or gets no answer at all, the cache and every later answer too. -/
theorem requests_leave_no_trace (hrun : run setup events = .ok s) (request : DecisionRequest) :
    s.LeavesNoTrace request := by
  have hkept := isKept_of_run hrun
  have hsame := sameSources_handle s request
  have hhandled := handled_handle s request
  refine ⟨hsame.models, hsame.tiers, ?_, ?_, ?_⟩
  · intro hno hok
    by_contra hchanged
    apply hno
    generalize hbehind : s.handle request = behind at hhandled hok hchanged
    cases hhandled with
    | spared hother => exact absurd rfl hchanged
    | @resolved groups span result cache counts hasks hresolve =>
        cases result with
        | error error => cases hok
        | ok tier =>
            refine ⟨hasks.isPost, hasks.atEndpoint, .ofTier tier, ?_, by cases tier <;> rfl⟩
            rw [hbehind]
            rfl
  · generalize s.handle request = behind at hhandled hsame ⊢
    obtain ⟨span, hnow⟩ : ∃ span, behind.2.now = (s.wait span).now := by
      cases hhandled with
      | @spared response span counts hother => exact ⟨span, rfl⟩
      | @resolved groups span result cache counts hasks hresolve => exact ⟨span, rfl⟩
    refine ⟨span, hnow, fun hcache later => ?_⟩
    have halike : Alike (s.wait span) behind.2 :=
      ⟨⟨hsame.models, hsame.tiers, hsame.readTimeout⟩, hcache, hnow⟩
    exact exchanges_of_alike halike later
  · intro error herror
    generalize s.handle request = behind at hhandled herror ⊢
    cases hhandled with
    | spared hother => cases herror
    | @resolved groups span result cache counts hasks hresolve =>
        cases result with
        | ok tier => cases herror
        | error error =>
            obtain ⟨hlate, kept, hroom, hcache⟩ :=
              TierCache.late_of_resolve_eq_error hkept hresolve
            exact ⟨groups, kept, hasks, hlate, hroom, hcache⟩

/-- A guest asks for its tier. -/
def guestAsks : DecisionRequest where
  method := "POST"
  path := "/v1/tiers/lookup"
  body := ⟨[⟨0, .ok "\x7b\"groups\":[\"guests\"]\x7d".toUTF8.toList⟩], false⟩

/-- Tiers are kept for so long that the clock ends soon, and there is room for one identity. -/
def keptLong : ServiceSetup :=
  ⟨⟨"maas", "tiers"⟩, .ofSeconds (2 ^ 63 - 10), 1, 5⟩

/-- The service in which only the member is known, shortly before its clock ends. -/
def memberKept : DecisionService where
  models := .empty
  tiers := .new ⟨"maas", "tiers"⟩
  cache := ⟨.ofSeconds (2 ^ 63 - 10), 1, [⟨⟨["all"]⟩, none, .ofSeconds (2 ^ 63 - 10)⟩]⟩
  readTimeout := 5
  counts := [⟨(.tiersLookup, .noTier), 1⟩]
  now := .ofSeconds 20

/-- A guest gets no answer from a full cache, in which the member is forgotten nevertheless. -/
theorem guest_displaces_member :
    run keptLong [.asked memberAsks, .waited (.ofSeconds 20)] = .ok memberKept ∧
      (memberKept.handle guestAsks).1 = .error .unrepresentable ∧
      memberKept.cache.size = 1 ∧ (memberKept.handle guestAsks).2.cache.size = 0 ∧
      memberKept.LeavesNoTrace guestAsks := by
  have hrun : run keptLong [.asked memberAsks, .waited (.ofSeconds 20)] = .ok memberKept := by cbv
  refine ⟨hrun, by cbv, by cbv, by cbv, requests_leave_no_trace hrun guestAsks⟩

end DecisionService

end ModelGate

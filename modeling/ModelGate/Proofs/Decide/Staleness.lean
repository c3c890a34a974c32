import ModelGate.Proofs.Decide.QuestionText
import ModelGate.Proofs.Decide.Run
import ModelGate.Proofs.Index.TierHistory
import ModelGate.Proofs.Tier.Resolution

/-!
# How old the answers of the decision service may be

A tier may be answered from the cache, so it may rest on a mapping that has been replaced since.
`tier_answers_of_bounded_age` bounds the age: the mapping behind an answer was the current one now
or less than one time to live ago.

The invariant is `IsResolution`: every entry of the cache holds what the current mapping of some
earlier state said about its key, and it expires one time to live after that state.  The history of
a run is the list of the states after its prefixes, so it only grows.
-/

namespace ModelGate

open TierDocument (Configures)

/-- The request asks, with a body that arrives in time, for the tier of some groups. -/
structure DecisionRequest.AsksTier (request : DecisionRequest) (readTimeout : Duration)
    (groups : List String) : Prop where
  isPost : request.method = "POST"
  atEndpoint : request.path = "/v1/tiers/lookup"
  isRead : ∃ bytes, (request.body.read readTimeout).outcome = .ok bytes ∧
    TierQuestion.ofBytes? bytes = some ⟨groups⟩

namespace DecisionRequest

variable {request : DecisionRequest} {readTimeout : Duration}

/-- Whoever posts the object of a question asks it, if the body is read in time. -/
theorem asksTier_of_toJson {question : TierQuestion} (hpost : request.method = "POST")
    (hendpoint : request.path = "/v1/tiers/lookup")
    (hread : (request.body.read readTimeout).outcome = .ok (utf8Bytes question.toJson.render)) :
    request.AsksTier readTimeout question.groups :=
  ⟨hpost, hendpoint, _, hread, question.ofBytes?_toJson⟩

theorem AsksTier.unique {groups groups' : List String} (h : request.AsksTier readTimeout groups)
    (h' : request.AsksTier readTimeout groups') : groups = groups' := by
  obtain ⟨bytes, hread, hquestion⟩ := h.isRead
  obtain ⟨bytes', hread', hquestion'⟩ := h'.isRead
  cases hread.symm.trans hread'
  cases hquestion.symm.trans hquestion'
  rfl

end DecisionRequest

/-- How the question for a tier has to be answered: with the names of the tier, if there is one. -/
inductive AnswersTier : Option Tier → DecisionResponse → Prop
  | tier (name displayName : String) (level : Nat) :
      AnswersTier (some ⟨name, displayName, level⟩)
        ⟨200, .obj [("displayName", .str displayName), ("tier", .str name)], none⟩
  | noTier : AnswersTier none ⟨200, .obj [], none⟩

theorem answersTier_iff {tier : Option Tier} {response : DecisionResponse} :
    AnswersTier tier response ↔ response = .ofTier tier := by
  constructor
  · intro h
    cases h <;> rfl
  · rintro rfl
    cases tier with
    | none => exact .noTier
    | some tier => exact .tier tier.name tier.displayName tier.level

namespace DecisionService

variable {setup : ServiceSetup} {events : List ServiceEvent} {s s' : DecisionService}

/-- The mapping was the current one at some time of a run. -/
def WasCurrent (setup : ServiceSetup) (events : List ServiceEvent) (mapping : TierMapping)
    (time : Duration) : Prop :=
  ∃ before after s, events = before ++ after ∧ run setup before = .ok s ∧
    s.tiers.mapping = mapping ∧ s.now = time

theorem wasCurrent_of_run (h : run setup events = .ok s) :
    WasCurrent setup events s.tiers.mapping s.now :=
  ⟨events, [], s, by simp, h, rfl, rfl⟩

theorem WasCurrent.append {mapping : TierMapping} {time : Duration}
    (h : WasCurrent setup events mapping time) (more : List ServiceEvent) :
    WasCurrent setup (events ++ more) mapping time := by
  obtain ⟨before, after, s, rfl, hrun, hmapping, htime⟩ := h
  exact ⟨before, after ++ more, s, by simp, hrun, hmapping, htime⟩

/-- The entry holds what some mapping of the run said, and expires one time to live later. -/
def IsResolution (setup : ServiceSetup) (events : List ServiceEvent) (now : Duration)
    (entry : CachedTier) : Prop :=
  ∃ mapping time, WasCurrent setup events mapping time ∧ time ≤ now ∧
    entry.tier = mapping.resolve entry.key.groups ∧ entry.expiresAt = time + setup.ttl

/-! ## What one event does to the cache -/

/-- An event keeps entries, drops some, or adds one that the current mapping gives now. -/
structure CacheStep (s s' : DecisionService) : Prop where
  ttl : s'.cache.ttl = s.cache.ttl
  now_le : s.now ≤ s'.now
  entry_origin : ∀ entry ∈ s'.cache.entries, entry ∈ s.cache.entries ∨
    (entry.tier = s'.tiers.mapping.resolve entry.key.groups ∧
      entry.expiresAt = s'.now + s.cache.ttl)

/-- An event that leaves the cache alone. -/
theorem cacheStep_of_same_cache (hcache : s'.cache = s.cache) (hnow : s.now ≤ s'.now) :
    CacheStep s s' where
  ttl := by rw [hcache]
  now_le := hnow
  entry_origin := by
    intro entry hentry
    rw [hcache] at hentry
    exact Or.inl hentry

theorem lookupTier_of_error {bytes : List UInt8} {question : TierQuestion} {error : ExpiryError}
    {cache : TierCache} (h : TierQuestion.ofBytes? bytes = some question)
    (hresolve : s.cache.resolve s.tiers.mapping s.now (.ofGroups question.groups) =
      (.error error, cache)) :
    s.lookupTier bytes = (.error error, { s with cache }) := by
  unfold lookupTier
  simp only [h, hresolve]

/-- A question for a tier is answered by what the cache resolves. -/
theorem lookupTier_of_ok {bytes : List UInt8} {question : TierQuestion} {tier : Option Tier}
    {cache : TierCache} (h : TierQuestion.ofBytes? bytes = some question)
    (hresolve : s.cache.resolve s.tiers.mapping s.now (.ofGroups question.groups) =
      (.ok tier, cache)) :
    s.lookupTier bytes =
      (.ok (.ofTier tier),
        { s with cache }.observe .tiersLookup (if tier.isSome then .tier else .noTier)) := by
  unfold lookupTier
  simp only [h, hresolve]

theorem cacheStep_lookupTier (s : DecisionService) (bytes : List UInt8) :
    CacheStep s (s.lookupTier bytes).2 := by
  cases hquestion : TierQuestion.ofBytes? bytes with
  | none =>
      unfold lookupTier
      rw [hquestion]
      exact cacheStep_of_same_cache rfl (Nat.le_refl _)
  | some question =>
      have hstep : CacheStep s { s with
          cache := (s.cache.resolve s.tiers.mapping s.now (.ofGroups question.groups)).2 } := by
        -- The cache may have made room even where the resolution fails.
        refine ⟨TierCache.ttl_resolve, Nat.le_refl _, ?_⟩
        intro entry hentry
        rcases TierCache.mem_entries_resolve hentry with hkept | rfl
        · exact Or.inl hkept
        · exact Or.inr ⟨rfl, rfl⟩
      cases hresolve : s.cache.resolve s.tiers.mapping s.now (.ofGroups question.groups) with
      | mk outcome cache =>
          rw [hresolve] at hstep
          cases outcome with
          | error error =>
              rw [lookupTier_of_error hquestion hresolve]
              exact hstep
          | ok tier =>
              rw [lookupTier_of_ok hquestion hresolve]
              exact ⟨hstep.ttl, hstep.now_le, hstep.entry_origin⟩

theorem cacheStep_authorizeModel (s : DecisionService) (bytes : List UInt8) :
    CacheStep s (s.authorizeModel bytes).2 := by
  refine cacheStep_of_same_cache ?_ ?_
  · unfold authorizeModel
    split
    · rfl
    · split <;> rfl
  · unfold authorizeModel
    split
    · exact Nat.le_refl _
    · split <;> exact Nat.le_refl _

theorem cacheStep_handle (s : DecisionService) (request : DecisionRequest) :
    CacheStep s (s.handle request).2 := by
  unfold handle
  split
  · exact cacheStep_of_same_cache rfl (Nat.le_refl _)
  · next endpoint hendpoint =>
      split
      · exact cacheStep_of_same_cache rfl (Nat.le_refl _)
      · dsimp only
        -- Time goes by while the body is read, and only then the cache is asked.
        have hwait : s.now ≤ (s.wait (request.body.read s.readTimeout).took).now :=
          Nat.le_add_right _ _
        split
        · exact cacheStep_of_same_cache rfl hwait
        · next bytes hread =>
            have hanswer : CacheStep (s.wait (request.body.read s.readTimeout).took)
                ((s.wait (request.body.read s.readTimeout).took).answer endpoint bytes).2 := by
              cases endpoint with
              | tiersLookup => exact cacheStep_lookupTier _ bytes
              | modelsAuthorize => exact cacheStep_authorizeModel _ bytes
            exact ⟨hanswer.ttl, Nat.le_trans hwait hanswer.now_le, hanswer.entry_origin⟩

theorem cacheStep_of_stepped {e : ServiceEvent} (h : Stepped s e s') : CacheStep s s' := by
  cases h with
  | waited span => exact cacheStep_of_same_cache rfl (Nat.le_add_right _ _)
  | asked request => exact cacheStep_handle s request
  | _ => exact cacheStep_of_same_cache rfl (Nat.le_refl _)

/-! ## Whole runs -/

theorem ttl_of_run (h : run setup events = .ok s) : s.cache.ttl = setup.ttl := by
  refine run_induction (motive := fun _ s => s.cache.ttl = setup.ttl) rfl ?_ h
  intro events e s s' hrun hstepped ih
  rw [(cacheStep_of_stepped hstepped).ttl, ih]

/-- After any run every entry of the cache goes back to a mapping of the run. -/
theorem isResolution_of_run (h : run setup events = .ok s) :
    ∀ entry ∈ s.cache.entries, IsResolution setup events s.now entry := by
  refine run_induction (motive := fun events s =>
    ∀ entry ∈ s.cache.entries, IsResolution setup events s.now entry) ?_ ?_ h
  · intro entry hentry
    cases hentry
  · intro events e s s' hrun hstepped ih entry hentry
    have hcache := cacheStep_of_stepped hstepped
    rcases hcache.entry_origin entry hentry with hkept | ⟨htier, hexpires⟩
    · obtain ⟨mapping, time, hcurrent, htime, htier, hexpires⟩ := ih entry hkept
      exact ⟨mapping, time, hcurrent.append [e], Nat.le_trans htime hcache.now_le, htier, hexpires⟩
    · -- The new entry goes back to the state after the event itself.
      refine ⟨s'.tiers.mapping, s'.now, wasCurrent_of_run hrun, Nat.le_refl _, htier, ?_⟩
      rw [hexpires, ← hcache.ttl, ttl_of_run hrun]

/-! ## Answers -/

/-- A body that is answered asks for the tier of some groups, and the cache resolves it. -/
theorem lookupTier_eq_ok {bytes : List UInt8} {response : DecisionResponse}
    (h : s.lookupTier bytes = (.ok response, s')) (hok : response.status = 200) :
    ∃ groups tier, TierQuestion.ofBytes? bytes = some ⟨groups⟩ ∧
      s.cache.resolve s.tiers.mapping s.now (.ofGroups groups) = (.ok tier, s'.cache) ∧
      s'.tiers = s.tiers ∧ s'.now = s.now ∧ response = .ofTier tier := by
  cases hquestion : TierQuestion.ofBytes? bytes with
  | none =>
      -- A body that is no question is refused, and no refusal has the status 200.
      unfold lookupTier at h
      simp only [hquestion, reject, Prod.mk.injEq, Except.ok.injEq] at h
      rw [← h.1] at hok
      cases hok
  | some question =>
      cases hresolve : s.cache.resolve s.tiers.mapping s.now (.ofGroups question.groups) with
      | mk outcome cache =>
          cases outcome with
          | error error =>
              rw [lookupTier_of_error hquestion hresolve] at h
              cases (Prod.mk.inj h).1
          | ok tier =>
              rw [lookupTier_of_ok hquestion hresolve] at h
              cases h
              exact ⟨question.groups, tier, rfl, hresolve, rfl, rfl, rfl⟩

/-- A tier is answered only to a question for it that has been read. -/
theorem handle_tiers_eq_ok {request : DecisionRequest} {response : DecisionResponse}
    (hendpoint : request.path = "/v1/tiers/lookup")
    (hhandle : s.handle request = (.ok response, s')) (hok : response.status = 200) :
    ∃ groups tier, request.AsksTier s.readTimeout groups ∧
      s.cache.resolve s.tiers.mapping s'.now (.ofGroups groups) = (.ok tier, s'.cache) ∧
      s'.tiers = s.tiers ∧ response = .ofTier tier := by
  have hat : Endpoint.atPath? request.path = some .tiersLookup := by
    rw [hendpoint]
    decide
  unfold handle at hhandle
  simp only [hat] at hhandle
  by_cases hpost : request.method = "POST"
  · rw [if_neg (not_not.2 hpost)] at hhandle
    cases hread : (request.body.read s.readTimeout).outcome with
    | error error =>
        simp only [hread, reject, Prod.mk.injEq, Except.ok.injEq] at hhandle
        rw [← hhandle.1] at hok
        cases error <;> cases hok
    | ok bytes =>
        simp only [hread, answer] at hhandle
        obtain ⟨groups, tier, hquestion, hresolve, htiers, hnow, hresponse⟩ :=
          lookupTier_eq_ok hhandle hok
        -- The cache is asked when the body has been read, which is when the answer is given.
        rw [← hnow] at hresolve
        exact ⟨groups, tier, ⟨hpost, hendpoint, bytes, hread, hquestion⟩, hresolve, htiers, hresponse⟩
  · rw [if_pos hpost] at hhandle
    simp only [Prod.mk.injEq, Except.ok.injEq] at hhandle
    rw [← hhandle.1] at hok
    cases hok

/-- Every tier that is answered is what a mapping says that was the current one now, or less than
one time to live ago.  An answer from the cache leaves the cache as it is, and all that the cache
holds goes back to mappings of the run, one time to live before it expires. -/
theorem tier_answers_of_bounded_age {request : DecisionRequest} {response : DecisionResponse}
    (hrun : run setup events = .ok s) (hendpoint : request.path = "/v1/tiers/lookup")
    (hhandle : s.handle request = (.ok response, s')) (hok : response.status = 200) :
    ∃ groups, request.AsksTier setup.readTimeout groups ∧
      (∃ mapping time, WasCurrent setup (events ++ [.asked request]) mapping time ∧
        (time = s'.now ∨ (time < s'.now ∧ s'.now < time + setup.ttl)) ∧
        AnswersTier (mapping.resolve groups) response) ∧
      (∀ entry, s.cache.fresh? (.ofGroups groups) s'.now = some entry →
        s'.cache = s.cache ∧ AnswersTier entry.tier response) ∧
      ∀ entry ∈ s'.cache.entries, IsResolution setup (events ++ [.asked request]) s'.now entry := by
  obtain ⟨groups, tier, hasks, hresolve, htiers, rfl⟩ := handle_tiers_eq_ok hendpoint hhandle hok
  have hrun' : run setup (events ++ [.asked request]) = .ok s' := by
    refine (foldlM_append_singleton_eq_ok_iff step (start setup) events _ s').2 ⟨s, hrun, ?_⟩
    rw [step, hhandle]
  have hnow : s.now ≤ s'.now := by
    have hstep := cacheStep_handle s request
    rw [hhandle] at hstep
    exact hstep.now_le
  rw [readTimeout_of_run hrun] at hasks
  refine ⟨groups, hasks, ?_, ?_, isResolution_of_run hrun'⟩
  · have hanswer : (s.cache.resolve s.tiers.mapping s'.now (.ofGroups groups)).1 = .ok tier := by
      rw [hresolve]
    rcases TierCache.resolve_eq_ok hanswer with rfl | ⟨entry, hentry, hkey, hfresh, rfl⟩
    · -- The mapping was asked just now.
      refine ⟨s.tiers.mapping, s'.now, ?_, Or.inl rfl, ?_⟩
      · rw [← htiers]
        exact wasCurrent_of_run hrun'
      · rw [answersTier_iff, TierMapping.resolve_ofGroups]
    · -- A fresh entry goes back less than one time to live.
      obtain ⟨mapping, time, hcurrent, htime, htier, hexpires⟩ := isResolution_of_run hrun entry hentry
      refine ⟨mapping, time, hcurrent.append _, ?_, ?_⟩
      · rw [hexpires] at hfresh
        rcases Nat.eq_or_lt_of_le (Nat.le_trans htime hnow) with heq | hlt
        · exact Or.inl heq
        · exact Or.inr ⟨hlt, hfresh⟩
      · rw [answersTier_iff, htier, hkey, TierMapping.resolve_ofGroups]
  · intro entry hfresh
    rw [TierCache.resolve_of_fresh hfresh] at hresolve
    obtain ⟨htier, hcache⟩ := Prod.mk.inj hresolve
    exact ⟨hcache.symm, answersTier_iff.2 (by rw [Except.ok.inj htier])⟩

/-- A member of one group asks for its tier. -/
def memberAsks : DecisionRequest where
  method := "POST"
  path := "/v1/tiers/lookup"
  body := ⟨[⟨0, .ok "\x7b\"groups\":[\"all\"]\x7d".toUTF8.toList⟩], false⟩

/-- A configuration map that settles the mapping leaves the rest of the service alone. -/
theorem step_of_settles {map : ConfigMap} {mapping : TierMapping}
    (h : (MapEvent.applied map).Settles s.tiers.source mapping) :
    s.step (.mapApplied map) = .ok { s with tiers := ⟨s.tiers.source, mapping⟩ } := by
  have htake : s.tiers.apply map = .ok ⟨s.tiers.source, mapping⟩ := TierIndex.take_of_settles h
  change s.applyMap map = _
  unfold applyMap
  rw [htake]
  rfl

/-- A document with one tier, which the members of `all` have. -/
def goldForAll : String := "- name: gold\n  level: 1\n  groups: [all]\n"

/-- The document that takes its place. -/
def silverForAll : String := "- name: silver\n  level: 2\n  groups: [all]\n"

def goldMapping : TierMapping :=
  ⟨[⟨⟨"gold", "gold", 1⟩, ["all"]⟩]⟩

def silverMapping : TierMapping :=
  ⟨[⟨⟨"silver", "silver", 2⟩, ["all"]⟩]⟩

theorem configures_goldForAll : Configures goldForAll goldMapping := by
  have hread : TierDocument.declarations? goldForAll = some [⟨"gold", none, none, 1, ["all"]⟩] := by
    cbv
  exact .declared (TierDocument.not_isBlank (by cbv)) hread ⟨by decide, by decide, by decide⟩

theorem configures_silverForAll : Configures silverForAll silverMapping := by
  have hread : TierDocument.declarations? silverForAll =
      some [⟨"silver", none, none, 2, ["all"]⟩] := by
    cbv
  exact .declared (TierDocument.not_isBlank (by cbv)) hread ⟨by decide, by decide, by decide⟩

/-- A service that has told the member some times, first at time zero, that its tier is gold. -/
def memberGolden (mapping : TierMapping) (asked : Nat) (now : Duration) : DecisionService where
  models := .empty
  tiers := ⟨⟨"maas", "tiers"⟩, mapping⟩
  cache := ⟨300, 10, [⟨⟨["all"]⟩, some ⟨"gold", "gold", 1⟩, 300⟩]⟩
  readTimeout := 5
  counts := [⟨(.tiersLookup, .tier), asked⟩]
  now := now

/-- The member asks, and then another document takes the place of the one that was answered from. -/
def silverEvents : List ServiceEvent :=
  [.mapApplied (TierIndex.tiersMap goldForAll), .asked memberAsks,
    .mapApplied (TierIndex.tiersMap silverForAll), .waited 299]

theorem run_silverEvents :
    run ⟨⟨"maas", "tiers"⟩, 300, 10, 5⟩ silverEvents = .ok (memberGolden silverMapping 1 299) := by
  have hgold : (start ⟨⟨"maas", "tiers"⟩, 300, 10, 5⟩).step
      (.mapApplied (TierIndex.tiersMap goldForAll)) =
        .ok { start ⟨⟨"maas", "tiers"⟩, 300, 10, 5⟩ with
          tiers := ⟨⟨"maas", "tiers"⟩, goldMapping⟩ } :=
    step_of_settles (.applied rfl configures_goldForAll)
  have hasked : step { start ⟨⟨"maas", "tiers"⟩, 300, 10, 5⟩ with
      tiers := ⟨⟨"maas", "tiers"⟩, goldMapping⟩ } (.asked memberAsks) =
        .ok (memberGolden goldMapping 1 0) := by
    cbv
  have hsilver : (memberGolden goldMapping 1 0).step
      (.mapApplied (TierIndex.tiersMap silverForAll)) = .ok (memberGolden silverMapping 1 0) :=
    step_of_settles (.applied rfl configures_silverForAll)
  have hwaited : (memberGolden silverMapping 1 0).step (.waited 299) =
      .ok (memberGolden silverMapping 1 299) := rfl
  unfold run silverEvents
  simp only [List.foldlM_cons, List.foldlM_nil, hgold, hasked, hsilver, hwaited, bind, Except.bind]
  rfl

/-- At the last moment of its life an entry is still the answer, whatever the mapping says now. -/
theorem member_asks_again :
    ∃ s s' mapping time,
      run ⟨⟨"maas", "tiers"⟩, 300, 10, 5⟩ silverEvents = .ok s ∧
      s.tiers.mapping.resolve ["all"] = some ⟨"silver", "silver", 2⟩ ∧
      s.handle memberAsks =
        (.ok ⟨200, .obj [("displayName", .str "gold"), ("tier", .str "gold")], none⟩, s') ∧
      WasCurrent ⟨⟨"maas", "tiers"⟩, 300, 10, 5⟩ (silverEvents ++ [.asked memberAsks]) mapping time ∧
      (time = 299 ∨ (time < 299 ∧ 299 < time + 300)) ∧
      AnswersTier (mapping.resolve ["all"])
        ⟨200, .obj [("displayName", .str "gold"), ("tier", .str "gold")], none⟩ := by
  have hsilver : silverMapping.resolve ["all"] = some ⟨"silver", "silver", 2⟩ := by decide
  have hhandle : (memberGolden silverMapping 1 299).handle memberAsks =
      (.ok ⟨200, .obj [("displayName", .str "gold"), ("tier", .str "gold")], none⟩,
        memberGolden silverMapping 2 299) := by
    cbv
  have hasks : memberAsks.AsksTier 5 ["all"] :=
    @DecisionRequest.asksTier_of_toJson memberAsks 5 ⟨["all"]⟩ rfl rfl (by cbv)
  obtain ⟨groups, hread, ⟨mapping, time, hcurrent, htime, hanswer⟩, -⟩ :=
    tier_answers_of_bounded_age run_silverEvents rfl hhandle rfl
  rw [← hasks.unique hread] at hanswer
  exact ⟨_, _, mapping, time, run_silverEvents, hsilver, hhandle, hcurrent, htime, hanswer⟩

end DecisionService

end ModelGate

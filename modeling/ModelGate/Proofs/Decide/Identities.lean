import ModelGate.Proofs.Decide.BodyReading
import ModelGate.Proofs.Decide.SideEffects
import ModelGate.Proofs.Tier.Identity

/-!
# Whoever has the same groups is the same

A question for a tier counts by the set of its groups.  A service that is asked with the groups in
another order, or with some of them repeated, gives the same answer and is the same behind it
(`handle_eq_of_sameGroups`), so a whole run does not tell such questions apart.

Questions with different sets of groups have different entries in the cache: none of them is answered
from the entry of another one, and none replaces it.
-/

namespace ModelGate

namespace DecisionService

variable {setup : ServiceSetup} {events events' : List ServiceEvent} {s s' : DecisionService}
  {request request' : DecisionRequest} {groups groups' : List String}

/-! ## Questions that count as the same -/

theorem handle_of_asksTier (h : request.AsksTier s.readTimeout groups) :
    ∃ bytes, TierQuestion.ofBytes? bytes = some ⟨groups⟩ ∧
      s.handle request = (s.wait (request.body.read s.readTimeout).took).lookupTier bytes := by
  obtain ⟨method, path, body⟩ := request
  obtain ⟨rfl, rfl, bytes, hread, hquestion⟩ := h
  refine ⟨bytes, hquestion, (handle_post s .tiersLookup body).trans ?_⟩
  rw [hread]
  rfl

theorem lookupTier_eq_of_sameGroups {bytes bytes' : List UInt8}
    (h : TierQuestion.ofBytes? bytes = some ⟨groups⟩)
    (h' : TierQuestion.ofBytes? bytes' = some ⟨groups'⟩) (hsame : SameGroups groups groups') :
    s.lookupTier bytes' = s.lookupTier bytes := by
  unfold lookupTier
  rw [h, h']
  dsimp only
  rw [GroupKey.ofGroups_eq_iff.2 hsame]

/-- A service answers questions for the same groups alike, and is the same behind them, if they are
read in the same time. -/
theorem handle_eq_of_sameGroups (h : request.AsksTier s.readTimeout groups)
    (h' : request'.AsksTier s.readTimeout groups') (hsame : SameGroups groups groups')
    (htook : (request'.body.read s.readTimeout).took = (request.body.read s.readTimeout).took) :
    s.handle request' = s.handle request := by
  obtain ⟨bytes, hquestion, hhandle⟩ := handle_of_asksTier h
  obtain ⟨bytes', hquestion', hhandle'⟩ := handle_of_asksTier h'
  rw [hhandle, hhandle', htook, lookupTier_eq_of_sameGroups hquestion hquestion' hsame]

/-- The second event is the first one, or it is a question for the same groups in its place. -/
inductive Regrouped (readTimeout : Duration) : ServiceEvent → ServiceEvent → Prop
  | refl (e : ServiceEvent) : Regrouped readTimeout e e
  | asked {request request' : DecisionRequest} {groups groups' : List String}
      (h : request.AsksTier readTimeout groups) (h' : request'.AsksTier readTimeout groups')
      (hsame : SameGroups groups groups')
      (htook : (request'.body.read readTimeout).took = (request.body.read readTimeout).took) :
      Regrouped readTimeout (.asked request) (.asked request')

theorem Regrouped.step_eq {e e' : ServiceEvent} (h : Regrouped s.readTimeout e e') :
    s.step e' = s.step e ∧ (s.exchange? e').map (·.2) = (s.exchange? e).map (·.2) := by
  cases h with
  | refl => exact ⟨rfl, rfl⟩
  | asked h h' hsame htook =>
      have hhandle := handle_eq_of_sameGroups h h' hsame htook
      simp only [step, exchange?, hhandle, Option.map_some, and_self]

/-- What a service answers to the requests of a run, in their order. -/
def answers (s : DecisionService) (events : List ServiceEvent) :
    List (Except ExpiryError DecisionResponse) :=
  (s.exchanges events).map (·.2)

theorem answers_cons (s : DecisionService) (e : ServiceEvent) (rest : List ServiceEvent) :
    s.answers (e :: rest) = ((s.exchange? e).map (·.2)).toList ++
      match s.step e with
      | .ok s' => s'.answers rest
      | .error _ => [] := by
  unfold answers
  rw [exchanges, List.map_append, Option.toList_map]
  cases s.step e <;> rfl

/-- Events that are replaced so make no difference to a service. -/
theorem eq_of_regrouped {readTimeout : Duration} (htimeout : s.readTimeout = readTimeout)
    (h : List.Forall₂ (Regrouped readTimeout) events events') :
    events'.foldlM step s = events.foldlM step s ∧ s.answers events' = s.answers events := by
  -- The induction is on the pairs of events, and no event changes how long a body may take.
  induction h generalizing s with
  | nil => exact ⟨rfl, rfl⟩
  | @cons e e' rest rest' hfirst hrest ih =>
      rw [← htimeout] at hfirst
      obtain ⟨hstep, hanswer⟩ := hfirst.step_eq
      rw [List.foldlM_cons, List.foldlM_cons, answers_cons, answers_cons, hstep, hanswer]
      cases hnext : s.step e with
      | error error => exact ⟨rfl, rfl⟩
      | ok next =>
          have htimeout' : next.readTimeout = readTimeout :=
            (readTimeout_of_stepped (stepped_of_step hnext)).trans htimeout
          obtain ⟨hrun, hanswers⟩ := ih htimeout'
          exact ⟨hrun, congrArg _ hanswers⟩

/-! ## Identities -/

/-- The key of an identity stands for the set of its groups, and nothing else counts. -/
structure KeysStandForGroups (setup : ServiceSetup) : Prop where
  ofGroups_eq_iff : ∀ {groups groups'},
    GroupKey.ofGroups groups = GroupKey.ofGroups groups' ↔ SameGroups groups groups'
  ascending : ∀ groups,
    (GroupKey.ofGroups groups).groups.Pairwise fun a b => utf8Bytes a < utf8Bytes b
  same_groups : ∀ groups, SameGroups (GroupKey.ofGroups groups).groups groups
  /-- The groups are sorted, and of equal neighbours the first one is kept. -/
  sorted : ∀ groups, (GroupKey.ofGroups groups).groups =
    (groups.mergeSort fun a b => Decidable.decide (a ≤ b)).destutter (· ≠ ·)
  ofGroups_groups : ∀ groups,
    GroupKey.ofGroups (GroupKey.ofGroups groups).groups = GroupKey.ofGroups groups
  resolve_eq : ∀ (mapping : TierMapping) groups,
    mapping.resolve (GroupKey.ofGroups groups).groups = mapping.resolve groups
  /-- A cache gives the same answers and holds as many identities all along. -/
  history_eq : ∀ (s : CachedMapping) {events events'},
    List.Forall₂ LookupEvent.Regrouped events events' →
    s.history (events'.map LookupEvent.onCache) = s.history (events.map LookupEvent.onCache)
  /-- Behind any events the service is the same, with as many identities in its cache. -/
  run_eq : ∀ {events events'}, List.Forall₂ (Regrouped setup.readTimeout) events events' →
    run setup events' = run setup events
  answers_eq : ∀ {events events'}, List.Forall₂ (Regrouped setup.readTimeout) events events' →
    (start setup).answers events' = (start setup).answers events
  /-- No entry is found for two identities. -/
  unshared : ∀ {events s groups groups'}, run setup events = .ok s → ∀ {entry},
    s.cache.find? (.ofGroups groups) = some entry →
    s.cache.find? (.ofGroups groups') = some entry → SameGroups groups groups'
  /-- To ask for an identity keeps the entry of another one, or drops it. -/
  kept_or_dropped : ∀ {events s groups groups'}, run setup events = .ok s →
    ¬ SameGroups groups groups' → ∀ mapping now,
    (s.cache.resolve mapping now (.ofGroups groups)).2.find? (.ofGroups groups') =
        s.cache.find? (.ofGroups groups') ∨
      (s.cache.resolve mapping now (.ofGroups groups)).2.find? (.ofGroups groups') = none
  /-- The answer does not depend on what is kept of other identities. -/
  answered_apart : ∀ {cache cache' : TierCache} {groups}, cache'.ttl = cache.ttl →
    cache'.find? (.ofGroups groups) = cache.find? (.ofGroups groups) → ∀ mapping now,
    (cache'.resolve mapping now (.ofGroups groups)).1 =
      (cache.resolve mapping now (.ofGroups groups)).1

/-- Equal keys stand for equal sets of groups, in every run of a service. -/
theorem keys_stand_for_groups (setup : ServiceSetup) : KeysStandForGroups setup where
  ofGroups_eq_iff := GroupKey.ofGroups_eq_iff
  ascending := fun groups =>
    (GroupKey.pairwise_ofGroups groups).imp fun h => lt_iff_utf8Bytes_lt.1 h
  same_groups := fun groups g => GroupKey.mem_ofGroups_iff g groups
  sorted := GroupKey.groups_ofGroups_eq_destutter
  ofGroups_groups := fun groups =>
    GroupKey.ofGroups_eq_iff.2 fun g => GroupKey.mem_ofGroups_iff g groups
  resolve_eq := fun mapping groups => mapping.resolve_ofGroups groups
  history_eq := fun s _ _ h => congrArg s.history (LookupEvent.map_onCache_eq h)
  run_eq := fun h => (eq_of_regrouped rfl h).1
  answers_eq := fun h => (eq_of_regrouped rfl h).2
  unshared := by
    intro events s groups groups' _ entry hfound hfound'
    have hkey : entry.key = .ofGroups groups := by simpa using List.find?_some hfound
    have hkey' : entry.key = .ofGroups groups' := by simpa using List.find?_some hfound'
    exact GroupKey.ofGroups_eq_iff.1 (hkey.symm.trans hkey')
  kept_or_dropped := by
    intro events s groups groups' hrun hother mapping now
    exact (isKept_of_run hrun).find?_resolve_of_ne (mt GroupKey.ofGroups_eq_iff.1 hother)
  answered_apart := fun httl hfind _ _ => TierCache.answer_resolve_congr httl hfind

end DecisionService

end ModelGate

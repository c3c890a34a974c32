import ModelGate.Proofs.Access.Verdict
import ModelGate.Proofs.Decide.QuestionText
import ModelGate.Proofs.Decide.Run

/-!
# Authorization over whole runs

`Answers` says, without the index, how the service has to answer the question whether a tier may
use the model that a path names, given the models that are live.  `authorize_answers_live_models`
says that after any run the service gives this answer and no other.

Only live models of the name in the path have a say in `Answers`.  So the answer does not change
with the order of events on different objects, with models of other names, with the tier mapping,
the cache, earlier requests or the time that went by.
-/

namespace ModelGate

open Access (ModelAccess Decision HasSegment NamesModel AuthorizeError)

/-- The request asks, with a body that arrives in time, a question about a model. -/
structure DecisionRequest.AsksModel (request : DecisionRequest) (readTimeout : Duration)
    (question : ModelQuestion) : Prop where
  isPost : request.method = "POST"
  atEndpoint : request.path = "/v1/models/authorize"
  isRead : ∃ bytes, (request.body.read readTimeout).outcome = .ok bytes ∧
    ModelQuestion.ofBytes? bytes = some question

/-- Whoever posts the object of a question asks it, if the body is read in time. -/
theorem DecisionRequest.asksModel_of_toJson {request : DecisionRequest} {readTimeout : Duration}
    {question : ModelQuestion} (hpost : request.method = "POST")
    (hendpoint : request.path = "/v1/models/authorize")
    (hread : (request.body.read readTimeout).outcome = .ok (utf8Bytes question.toJson.render)) :
    request.AsksModel readTimeout question :=
  ⟨hpost, hendpoint, _, hread, question.ofBytes?_toJson⟩

/-- How the question whether a tier may use the model of a path has to be answered. -/
inductive Answers (live : ModelAccess → Prop) (path tier : String) : DecisionResponse → Prop
  | pathMissing (h : path = "") :
      Answers live path tier ⟨400, .obj [("error", .str "path is required")], none⟩
  | pathMalformed (hne : path ≠ "") (h : ∀ segment, ¬ HasSegment path segment) :
      Answers live path tier
        ⟨400, .obj [("error", .str "invalid path format: expected /llm/\x7bmodel-name\x7d/...")], none⟩
  | nameMissing (h : HasSegment path "") :
      Answers live path tier ⟨400, .obj [("error", .str "model name not found in path")], none⟩
  | notFound {name : String} (hpath : NamesModel path name) (h : ∀ m, live m → m.name ≠ name) :
      Answers live path tier ⟨404, .obj [("error", .str ("model not found: " ++ name))], none⟩
  | misconfigured {m : ModelAccess} (hpath : NamesModel path m.name) (hlive : live m)
      (hform : m.IsMalformed)
      (hleast : ∀ other, live other → other.name = m.name → other.IsMalformed → m.ns ≤ other.ns) :
      Answers live path tier
        ⟨500, .obj [("error", .str ("invalid tier annotation format on " ++ m.ns ++ "/" ++ m.name ++
          ": <json>"))], none⟩
  | denied {m : ModelAccess} (hpath : NamesModel path m.name)
      (hform : ∀ other, live other → other.name = m.name → ¬ other.IsMalformed)
      (hlive : live m) (hexcludes : m.Excludes tier) :
      Answers live path tier
        ⟨200, .obj [("allowed", .bool false),
          ("reason", .str ("user tier '" ++ tier ++ "' not in model's allowed tiers"))], none⟩
  | allowed {m : ModelAccess} (hpath : NamesModel path m.name) (hlive : live m)
      (h : ∀ other, live other → other.name = m.name →
        ¬ other.IsMalformed ∧ ¬ other.Excludes tier) :
      Answers live path tier ⟨200, .obj [("allowed", .bool true)], none⟩

namespace Answers

variable {live live' : ModelAccess → Prop} {path tier : String} {response : DecisionResponse}

/-- Only the live models of the name in the path have a say. -/
theorem of_same_models (hsame : ∀ m, NamesModel path m.name → (live m ↔ live' m))
    (h : Answers live path tier response) : Answers live' path tier response := by
  cases h with
  | pathMissing h => exact .pathMissing h
  | pathMalformed hne h => exact .pathMalformed hne h
  | nameMissing h => exact .nameMissing h
  | notFound hpath h =>
      refine .notFound hpath ?_
      intro m hm hname
      exact h m ((hsame m (hname ▸ hpath)).2 hm) hname
  | misconfigured hpath hlive hform hleast =>
      refine .misconfigured hpath ((hsame _ hpath).1 hlive) hform ?_
      intro other hother hname
      exact hleast other ((hsame other (hname ▸ hpath)).2 hother) hname
  | denied hpath hform hlive hexcludes =>
      refine .denied hpath ?_ ((hsame _ hpath).1 hlive) hexcludes
      intro other hother hname
      exact hform other ((hsame other (hname ▸ hpath)).2 hother) hname
  | allowed hpath hlive h =>
      refine .allowed hpath ((hsame _ hpath).1 hlive) ?_
      intro other hother hname
      exact h other ((hsame other (hname ▸ hpath)).2 hother) hname

end Answers

namespace DecisionService

variable {s : DecisionService} {request : DecisionRequest} {path tier : String}

/-! ## From the request to the decision -/

theorem handle_of_asksModel {question : ModelQuestion}
    (h : request.AsksModel s.readTimeout question) :
    ∃ bytes, ModelQuestion.ofBytes? bytes = some question ∧
      (s.handle request).1 =
        .ok ((s.wait (request.body.read s.readTimeout).took).authorizeModel bytes).1 := by
  obtain ⟨bytes, hread, hquestion⟩ := h.isRead
  refine ⟨bytes, hquestion, ?_⟩
  have hendpoint : Endpoint.atPath? request.path = some .modelsAuthorize := by
    rw [h.atEndpoint]
    decide
  unfold handle
  simp only [hendpoint, h.isPost, hread]
  rfl

/-- A question that is refused is answered with what is wrong. -/
theorem handle_of_decide_error {question : ModelQuestion} {r : Rejection}
    (h : request.AsksModel s.readTimeout question) (hdecide : s.decide question = .error r) :
    (s.handle request).1 = .ok (.error r.status r.message) := by
  obtain ⟨bytes, hquestion, hhandle⟩ := handle_of_asksModel h
  have hwaited : (s.wait (request.body.read s.readTimeout).took).decide question = .error r :=
    hdecide
  rw [hhandle]
  unfold authorizeModel
  simp only [hquestion, hwaited]
  rfl

theorem handle_of_decide_ok {question : ModelQuestion} {decision : Decision}
    (h : request.AsksModel s.readTimeout question) (hdecide : s.decide question = .ok decision) :
    (s.handle request).1 = .ok (.ofDecision decision) := by
  obtain ⟨bytes, hquestion, hhandle⟩ := handle_of_asksModel h
  have hwaited : (s.wait (request.body.read s.readTimeout).took).decide question = .ok decision :=
    hdecide
  rw [hhandle]
  unfold authorizeModel
  simp only [hquestion, hwaited]

theorem decide_of_authorize_error {error : AuthorizeError} (hpath : path ≠ "") (htier : tier ≠ "")
    (h : Access.authorize s.models.modelsNamed path tier = .error error) :
    s.decide ⟨path, tier⟩ = .error (.ofAuthorize error) := by
  unfold decide
  rw [if_neg hpath, if_neg htier, h]

theorem decide_of_authorize_ok {decision : Decision} (hpath : path ≠ "") (htier : tier ≠ "")
    (h : Access.authorize s.models.modelsNamed path tier = .ok decision) :
    s.decide ⟨path, tier⟩ = .ok decision := by
  unfold decide
  rw [if_neg hpath, if_neg htier, h]

/-! ## From the index to the answer -/

variable {events : List ModelEvent}

theorem authorize_of_not_live {name : String} (hrep : ModelIndex.Represents events s.models)
    (hpath : NamesModel path name) (h : ∀ m, IsLive events m → m.name ≠ name) :
    Access.authorize s.models.modelsNamed path tier = .error (.notFound name) := by
  refine Access.authorize_of_no_models hpath ?_
  rw [List.eq_nil_iff_forall_not_mem]
  intro m hm
  obtain ⟨hlive, hname⟩ := (hrep.mem_iff name m).1 hm
  exact h m hlive hname

/-- Of the malformed models the one of the least namespace is named. -/
theorem authorize_of_isMalformed {m : ModelAccess} (hrep : ModelIndex.Represents events s.models)
    (hpath : NamesModel path m.name) (hlive : IsLive events m) (hform : m.IsMalformed)
    (hleast : ∀ other, IsLive events other → other.name = m.name → other.IsMalformed →
      m.ns ≤ other.ns) :
    ∃ fault, Access.authorize s.models.modelsNamed path tier =
      .error (.invalidAllowlist m.ns m.name fault) := by
  have hmem : m ∈ s.models.modelsNamed m.name := (hrep.mem_iff m.name m).2 ⟨hlive, rfl⟩
  obtain ⟨before, after, hsplit⟩ := List.append_of_mem hmem
  -- What stands before the model is of a lesser namespace, hence not malformed.
  have hbefore : ∀ x ∈ before, ¬ x.IsMalformed := by
    intro x hx hxform
    have hasc := hrep.ascending m.name
    rw [hsplit] at hasc
    have hlt : x.ns < m.ns := (List.pairwise_append.1 hasc).2.2 x hx m (by simp)
    obtain ⟨hxlive, hxname⟩ := (hrep.mem_iff m.name x).1 (by rw [hsplit]; simp [hx])
    exact absurd (hleast x hxlive hxname hxform) (String.not_le.2 hlt)
  rw [Access.authorize_of_models hpath (List.ne_nil_of_mem hmem), hsplit]
  exact Decision.foldlM_consider_of_isMalformed hbefore hform after .allow

theorem authorize_of_excludes {m : ModelAccess} (hrep : ModelIndex.Represents events s.models)
    (hpath : NamesModel path m.name)
    (hform : ∀ other, IsLive events other → other.name = m.name → ¬ other.IsMalformed)
    (hlive : IsLive events m) (hexcludes : m.Excludes tier) :
    Access.authorize s.models.modelsNamed path tier = .ok (.deny tier) := by
  have hmem : m ∈ s.models.modelsNamed m.name := (hrep.mem_iff m.name m).2 ⟨hlive, rfl⟩
  rw [Access.authorize_of_models hpath (List.ne_nil_of_mem hmem)]
  refine Decision.foldlM_consider_of_excludes ?_ hmem hexcludes
  intro x hx
  obtain ⟨hxlive, hxname⟩ := (hrep.mem_iff m.name x).1 hx
  exact hform x hxlive hxname

theorem authorize_of_not_excludes {m : ModelAccess} (hrep : ModelIndex.Represents events s.models)
    (hpath : NamesModel path m.name) (hlive : IsLive events m)
    (h : ∀ other, IsLive events other → other.name = m.name →
      ¬ other.IsMalformed ∧ ¬ other.Excludes tier) :
    Access.authorize s.models.modelsNamed path tier = .ok .allow := by
  have hmem : m ∈ s.models.modelsNamed m.name := (hrep.mem_iff m.name m).2 ⟨hlive, rfl⟩
  have hvoices : ∀ x ∈ s.models.modelsNamed m.name, ¬ x.IsMalformed ∧ ¬ x.Excludes tier := by
    intro x hx
    obtain ⟨hxlive, hxname⟩ := (hrep.mem_iff m.name x).1 hx
    exact h x hxlive hxname
  rw [Access.authorize_of_models hpath (List.ne_nil_of_mem hmem)]
  exact Decision.foldlM_consider_of_not_excludes (fun x hx => (hvoices x hx).1)
    fun x hx => (hvoices x hx).2

/-- What has to be answered is what the service answers. -/
theorem handle_of_answers {response : DecisionResponse}
    (hrep : ModelIndex.Represents events s.models)
    (hasks : request.AsksModel s.readTimeout ⟨path, tier⟩) (htier : tier ≠ "")
    (h : Answers (IsLive events) path tier response) :
    (s.handle request).1 = .ok response := by
  cases h with
  | pathMissing h =>
      refine handle_of_decide_error hasks (r := .badRequest "path is required") ?_
      unfold decide
      rw [if_pos h]
  | pathMalformed hne h =>
      exact handle_of_decide_error hasks
        (decide_of_authorize_error hne htier (Access.authorize_of_no_segment h))
  | nameMissing h =>
      exact handle_of_decide_error hasks
        (decide_of_authorize_error h.ne_empty htier (Access.authorize_of_empty_segment h))
  | notFound hpath h =>
      exact handle_of_decide_error hasks
        (decide_of_authorize_error hpath.2.ne_empty htier (authorize_of_not_live hrep hpath h))
  | misconfigured hpath hlive hform hleast =>
      obtain ⟨fault, hfault⟩ := authorize_of_isMalformed hrep hpath hlive hform hleast
      exact handle_of_decide_error hasks
        (decide_of_authorize_error hpath.2.ne_empty htier hfault)
  | denied hpath hform hlive hexcludes =>
      exact handle_of_decide_ok hasks (decide_of_authorize_ok hpath.2.ne_empty htier
        (authorize_of_excludes hrep hpath hform hlive hexcludes))
  | allowed hpath hlive h =>
      exact handle_of_decide_ok hasks (decide_of_authorize_ok hpath.2.ne_empty htier
        (authorize_of_not_excludes hrep hpath hlive h))

/-- Of the models of a name that have a property, one is of the least namespace. -/
theorem exists_least {models : List ModelAccess} (hasc : ModelIndex.Ascending models)
    {property : ModelAccess → Prop} (h : ∃ x ∈ models, property x) :
    ∃ m ∈ models, property m ∧ ∀ x ∈ models, property x → m.ns ≤ x.ns := by
  induction models with
  | nil =>
      obtain ⟨x, hx, -⟩ := h
      cases hx
  | cons other rest ih =>
      obtain ⟨hhead, hrest⟩ := List.pairwise_cons.1 hasc
      by_cases hother : property other
      · -- In ascending order the first one is the least one.
        refine ⟨other, by simp, hother, ?_⟩
        intro x hx _
        rcases List.mem_cons.1 hx with rfl | hx
        · exact String.le_refl _
        · exact String.not_lt.1 (String.lt_asymm (hhead x hx))
      · obtain ⟨x, hx, hproperty⟩ := h
        rcases List.mem_cons.1 hx with rfl | hx
        · exact absurd hproperty hother
        · obtain ⟨m, hm, hmproperty, hleast⟩ := ih hrest ⟨x, hx, hproperty⟩
          refine ⟨m, by simp [hm], hmproperty, ?_⟩
          intro y hy hyproperty
          rcases List.mem_cons.1 hy with rfl | hy
          · exact absurd hyproperty hother
          · exact hleast y hy hyproperty

/-- Every question has an answer. -/
theorem exists_answer {index : ModelIndex} (hrep : ModelIndex.Represents events index)
    (path tier : String) : ∃ response, Answers (IsLive events) path tier response := by
  by_cases hempty : path = ""
  · exact ⟨_, .pathMissing hempty⟩
  by_cases hsegment : ∃ segment, HasSegment path segment
  · obtain ⟨name, hname⟩ := hsegment
    by_cases hne : name = ""
    · subst hne
      exact ⟨_, .nameMissing hname⟩
    have hpath : NamesModel path name := ⟨hne, hname⟩
    have hmem := hrep.mem_iff name
    -- The cases come in the order of their weight: malformed, denied, unknown, allowed.
    by_cases hmalformed : ∃ x ∈ index.modelsNamed name, x.IsMalformed
    · obtain ⟨m, hm, hform, hleast⟩ := exists_least (hrep.ascending name) hmalformed
      obtain ⟨hlive, rfl⟩ := (hmem m).1 hm
      refine ⟨_, .misconfigured hpath hlive hform ?_⟩
      intro other hother hsame
      exact hleast other ((hmem other).2 ⟨hother, hsame⟩)
    have hform : ∀ x, IsLive events x → x.name = name → ¬ x.IsMalformed := by
      intro x hx hsame hxform
      exact hmalformed ⟨x, (hmem x).2 ⟨hx, hsame⟩, hxform⟩
    by_cases hexcluded : ∃ x ∈ index.modelsNamed name, x.Excludes tier
    · obtain ⟨m, hm, hexcludes⟩ := hexcluded
      obtain ⟨hlive, rfl⟩ := (hmem m).1 hm
      exact ⟨_, .denied hpath hform hlive hexcludes⟩
    cases hmodels : index.modelsNamed name with
    | nil =>
        refine ⟨_, .notFound hpath ?_⟩
        intro m hm hsame
        have hnone := (hmem m).2 ⟨hm, hsame⟩
        rw [hmodels] at hnone
        cases hnone
    | cons m rest =>
        obtain ⟨hlive, rfl⟩ := (hmem m).1 (by simp [hmodels])
        refine ⟨_, .allowed hpath hlive ?_⟩
        intro other hother hsame
        refine ⟨hform other hother hsame, ?_⟩
        intro hexcludes
        exact hexcluded ⟨other, (hmem other).2 ⟨hother, hsame⟩, hexcludes⟩
  · exact ⟨_, .pathMalformed hempty fun segment hseg => hsegment ⟨segment, hseg⟩⟩

/-! ## After any run -/

/-- After any events on named objects, the question whether a tier may use a model is answered as
the live models demand, and in no other way.  The answer stays the same in every other run with the
same events about the ids of the name in the path. -/
theorem authorize_answers_live_models {setup : ServiceSetup} {events : List ServiceEvent}
    (hnamed : ∀ e ∈ events, e.IsNamed)
    (hasks : request.AsksModel setup.readTimeout ⟨path, tier⟩) (htier : tier ≠ "") :
    ∃ s response, run setup events = .ok s ∧ (s.handle request).1 = .ok response ∧
      Answers (IsLive (modelEvents events)) path tier response ∧
      (∀ other, Answers (IsLive (modelEvents events)) path tier other → other = response) ∧
      ∀ (setup' : ServiceSetup) (events' : List ServiceEvent) (s' : DecisionService)
        (request' : DecisionRequest), run setup' events' = .ok s' →
        request'.AsksModel setup'.readTimeout ⟨path, tier⟩ →
        (∀ id : ObjectId, NamesModel path id.name →
          eventsAbout id (modelEvents events') = eventsAbout id (modelEvents events)) →
        (s'.handle request').1 = .ok response := by
  obtain ⟨s, hrun⟩ := run_of_isNamed setup hnamed
  have hrep := ModelIndex.represents_run (models_of_run hrun)
  have htimeout := readTimeout_of_run hrun
  rw [← htimeout] at hasks
  obtain ⟨response, hanswer⟩ := exists_answer hrep path tier
  have hhandle := handle_of_answers hrep hasks htier hanswer
  refine ⟨s, response, hrun, hhandle, hanswer, ?_, ?_⟩
  · intro other hother
    have hboth := (handle_of_answers hrep hasks htier hother).symm.trans hhandle
    exact Except.ok.inj hboth
  · intro setup' events' s' request' hrun' hasks' habout
    have hrep' := ModelIndex.represents_run (models_of_run hrun')
    rw [← readTimeout_of_run hrun'] at hasks'
    -- Which models of the name are live rests on the events about their ids alone.
    refine handle_of_answers hrep' hasks' htier (hanswer.of_same_models ?_)
    intro m hm
    rw [isLive_iff_getLast?, isLive_iff_getLast?, habout m.id hm]

/-- A model of the name `opt` with an annotation. -/
def optIn (ns tiers : String) : Model where
  metadata := { Metadata.blank with
    name := some "opt", ns := some ns
    annotations := [("alpha.maas.opendatahub.io/tiers", tiers)] }
  backend := ⟨"ExternalModel", "opt", none⟩
  status := none

/-- A member of the free tier asks for the model `opt`. -/
def freeAsksOpt : DecisionRequest where
  method := "POST"
  path := "/v1/models/authorize"
  body := ⟨[⟨0, .ok "\x7b\"path\":\"/llm/opt\",\"tier\":\"free\"\x7d".toUTF8.toList⟩], false⟩

/-- Two models of the name: the first one is open to the premium tier, and the annotation of the
second one cannot be read. -/
def optEvents : List ModelEvent :=
  [.applied (optIn "a" "[\"premium\"]"), .applied (optIn "b" "premium")]

theorem brings_optIn_iff (ns tiers : String) (m : ModelAccess) :
    ModelEvent.Brings (.applied (optIn ns tiers)) m ↔ m = ⟨ns, "opt", some tiers⟩ := by
  simp [ModelEvent.Brings, Model.access?, optIn, Metadata.blank, eq_comm]

theorem isLive_optEvents_iff (m : ModelAccess) :
    IsLive optEvents m ↔ m = ⟨"a", "opt", some "[\"premium\"]"⟩ ∨ m = ⟨"b", "opt", some "premium"⟩ := by
  have hevents : optEvents = ([] ++ [.applied (optIn "a" "[\"premium\"]")]) ++
      [.applied (optIn "b" "premium")] := rfl
  rw [hevents, isLive_append_singleton_iff, isLive_append_singleton_iff, brings_optIn_iff,
    brings_optIn_iff]
  simp only [not_isLive_nil, false_and, or_false]
  constructor
  · rintro (rfl | ⟨rfl, -⟩)
    · exact Or.inr rfl
    · exact Or.inl rfl
  · rintro (rfl | rfl)
    · exact Or.inr ⟨rfl, by decide⟩
    · exact Or.inl rfl

/-- The model that cannot be read outweighs the one that denies the tier. -/
theorem free_asks_opt :
    ∃ s,
      run ⟨⟨"maas", "tiers"⟩, 300, 10, 5⟩ (optEvents.map .model) = .ok s ∧
      (s.handle freeAsksOpt).1 =
        .ok ⟨500, .obj [("error", .str "invalid tier annotation format on b/opt: <json>")], none⟩ ∧
      Answers (IsLive optEvents) "/llm/opt" "free"
        ⟨500, .obj [("error", .str "invalid tier annotation format on b/opt: <json>")], none⟩ := by
  have hnamed : ∀ e ∈ optEvents.map ServiceEvent.model, e.IsNamed := by
    simp [optEvents, ServiceEvent.IsNamed, ModelEvent.IsNamed, optIn]
  have hasks : freeAsksOpt.AsksModel 5 ⟨"/llm/opt", "free"⟩ :=
    DecisionRequest.asksModel_of_toJson rfl rfl (by cbv)
  have hopen : ¬ (⟨"a", "opt", some "[\"premium\"]"⟩ : ModelAccess).IsMalformed :=
    (Access.ModelAccess.not_isMalformed_iff _).2
      ⟨["premium"], (Access.AllowedTiers.ofAnnotation_eq_ok_iff _ _).1 (by cbv)⟩
  have hunreadable : (⟨"b", "opt", some "premium"⟩ : ModelAccess).IsMalformed :=
    (Access.AllowedTiers.ofAnnotation_isError_iff _).1 ⟨.malformed, by cbv⟩
  have hpath : NamesModel "/llm/opt" "opt" :=
    ⟨by decide, by decide, "/", "", Or.inr rfl, Or.inl rfl, by decide⟩
  have hdemanded : Answers (IsLive optEvents) "/llm/opt" "free"
      ⟨500, .obj [("error", .str "invalid tier annotation format on b/opt: <json>")], none⟩ := by
    refine .misconfigured hpath ((isLive_optEvents_iff _).2 (Or.inr rfl)) hunreadable ?_
    intro other hlive _ hform
    rcases (isLive_optEvents_iff other).1 hlive with rfl | rfl
    · exact absurd hform hopen
    · exact String.le_refl _
  obtain ⟨s, response, hrun, hhandle, -, honly, -⟩ :=
    @authorize_answers_live_models freeAsksOpt "/llm/opt" "free"
      ⟨⟨"maas", "tiers"⟩, 300, 10, 5⟩ _ hnamed hasks (by decide)
  rw [← honly _ hdemanded] at hhandle
  exact ⟨s, hrun, hhandle, hdemanded⟩

end DecisionService

end ModelGate

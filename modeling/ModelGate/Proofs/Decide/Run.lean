import Mathlib
import ModelGate.Decide.Service
import ModelGate.Proofs.Index.LiveModels

/-!
# Runs of the decision service

A service is set up, and then events come in any order: models and configuration maps are applied
and deleted, time goes by, and requests are answered.

Requests and time leave the indexes alone, and the two indexes do not see each other's events.  So
the index of models after a run is the one after the run's model events (`models_of_run`).
-/

namespace ModelGate

/-- What happens to a decision service. -/
inductive ServiceEvent where
  | model (event : ModelEvent)
  | mapApplied (map : ConfigMap)
  | mapDeleted (id : ObjectId)
  | waited (span : Duration)
  | asked (request : DecisionRequest)

namespace ServiceEvent

/-- What the index of models is told by an event. -/
def model? : ServiceEvent → Option ModelEvent
  | model event => some event
  | _ => none

/-- Whether the object of an event has a name, as all objects of a cluster do. -/
def IsNamed : ServiceEvent → Prop
  | model event => event.IsNamed
  | mapApplied map => map.metadata.name ≠ none
  | _ => True

end ServiceEvent

/-- How a decision service is set up. -/
structure ServiceSetup where
  /-- The configuration map that the tiers come from. -/
  source : ObjectId
  /-- How long a resolved identity is kept, and how many of them. -/
  ttl : Duration
  capacity : Nat
  readTimeout : Duration

namespace DecisionService

variable {setup : ServiceSetup} {events : List ServiceEvent} {s s' : DecisionService}

/-- The service before any event. -/
def start (setup : ServiceSetup) : DecisionService :=
  new setup.source (.new setup.ttl setup.capacity) setup.readTimeout

/-- The service after one more event. -/
def step (s : DecisionService) : ServiceEvent → Except IndexError DecisionService
  | .model (.applied model) => s.applyModel model
  | .model (.deleted id) => .ok (s.eraseModel id)
  | .mapApplied map => s.applyMap map
  | .mapDeleted id => .ok (s.eraseMap id)
  | .waited span => .ok (s.wait span)
  | .asked request => .ok (s.handle request).2

/-- The service after some events. -/
def run (setup : ServiceSetup) (events : List ServiceEvent) : Except IndexError DecisionService :=
  events.foldlM step (start setup)

/-- What an event makes of a service. -/
inductive Stepped (s : DecisionService) : ServiceEvent → DecisionService → Prop
  | modelApplied {model : Model} {index : ModelIndex} (h : s.models.apply model = .ok index) :
      Stepped s (.model (.applied model)) { s with models := index }
  | modelDeleted (id : ObjectId) :
      Stepped s (.model (.deleted id)) { s with models := s.models.erase id.ns id.name }
  | mapApplied {map : ConfigMap} {index : TierIndex} (h : s.tiers.apply map = .ok index) :
      Stepped s (.mapApplied map) { s with tiers := index }
  | mapDeleted (id : ObjectId) : Stepped s (.mapDeleted id) { s with tiers := s.tiers.erase id }
  | waited (span : Duration) : Stepped s (.waited span) { s with now := s.now + span }
  | asked (request : DecisionRequest) : Stepped s (.asked request) (s.handle request).2

theorem stepped_of_step {e : ServiceEvent} (h : s.step e = .ok s') : Stepped s e s' := by
  cases e with
  | model event =>
      cases event with
      | deleted id =>
          cases h
          exact .modelDeleted id
      | applied model =>
          change s.applyModel model = .ok s' at h
          unfold applyModel at h
          cases hmodels : s.models.apply model with
          | error error =>
              rw [hmodels] at h
              cases h
          | ok index =>
              rw [hmodels] at h
              cases h
              exact .modelApplied hmodels
  | mapApplied map =>
      change s.applyMap map = .ok s' at h
      unfold applyMap at h
      cases htiers : s.tiers.apply map with
      | error error =>
          rw [htiers] at h
          cases h
      | ok index =>
          rw [htiers] at h
          cases h
          exact .mapApplied htiers
  | mapDeleted id =>
      cases h
      exact .mapDeleted id
  | waited span =>
      cases h
      exact .waited span
  | asked request =>
      cases h
      exact .asked request

/-- What holds at the start and is kept by every event holds after every run. -/
theorem run_induction {motive : List ServiceEvent → DecisionService → Prop}
    (init : motive [] (start setup))
    (keep : ∀ events e s s', run setup (events ++ [e]) = .ok s' → Stepped s e s' →
      motive events s → motive (events ++ [e]) s')
    (h : run setup events = .ok s) : motive events s := by
  -- The induction is on the events from the last one backwards: the step is at the end of the run.
  induction events using List.reverseRecOn generalizing s with
  | nil =>
      cases h
      exact init
  | append_singleton events e ih =>
      obtain ⟨t, hrun, hstep⟩ :=
        (foldlM_append_singleton_eq_ok_iff step (start setup) events e s).1 h
      exact keep events e t s h (stepped_of_step hstep) (ih hrun)

/-! ## What a request leaves alone -/

/-- What stays the same while requests are answered and time goes by. -/
structure SameSources (s t : DecisionService) : Prop where
  models : t.models = s.models
  tiers : t.tiers = s.tiers
  readTimeout : t.readTimeout = s.readTimeout

theorem sameSources_lookupTier (s : DecisionService) (bytes : List UInt8) :
    SameSources s (s.lookupTier bytes).2 := by
  unfold lookupTier
  split
  · exact ⟨rfl, rfl, rfl⟩
  · split <;> exact ⟨rfl, rfl, rfl⟩

theorem sameSources_authorizeModel (s : DecisionService) (bytes : List UInt8) :
    SameSources s (s.authorizeModel bytes).2 := by
  unfold authorizeModel
  split
  · exact ⟨rfl, rfl, rfl⟩
  · split <;> exact ⟨rfl, rfl, rfl⟩

theorem sameSources_answer (s : DecisionService) (endpoint : Endpoint) (bytes : List UInt8) :
    SameSources s (s.answer endpoint bytes).2 := by
  cases endpoint with
  | tiersLookup => exact sameSources_lookupTier s bytes
  | modelsAuthorize => exact sameSources_authorizeModel s bytes

/-- A request leaves both indexes as they are. -/
theorem sameSources_handle (s : DecisionService) (request : DecisionRequest) :
    SameSources s (s.handle request).2 := by
  unfold handle
  split
  · exact ⟨rfl, rfl, rfl⟩
  · next endpoint hendpoint =>
      split
      · exact ⟨rfl, rfl, rfl⟩
      · dsimp only
        split
        · exact ⟨rfl, rfl, rfl⟩
        · next bytes hread =>
            have h := sameSources_answer (s.wait (request.body.read s.readTimeout).took) endpoint
              bytes
            exact ⟨h.models, h.tiers, h.readTimeout⟩

/-! ## Runs to their end -/

/-- Events on named objects are taken note of. -/
theorem step_of_isNamed (s : DecisionService) {e : ServiceEvent} (h : e.IsNamed) :
    ∃ s', s.step e = .ok s' := by
  cases e with
  | model event =>
      cases event with
      | deleted id => exact ⟨_, rfl⟩
      | applied model =>
          change ∃ s', s.applyModel model = .ok s'
          unfold applyModel ModelIndex.apply
          cases hns : model.metadata.ns with
          | none => exact ⟨_, rfl⟩
          | some ns =>
              cases hname : model.metadata.name with
              | none => exact absurd hname (h (by simp [hns]))
              | some name => exact ⟨_, rfl⟩
  | mapApplied map =>
      change ∃ s', s.applyMap map = .ok s'
      unfold applyMap TierIndex.apply
      cases hname : map.metadata.name with
      | none => exact absurd hname h
      | some name => exact ⟨_, rfl⟩
  | mapDeleted id => exact ⟨_, rfl⟩
  | waited span => exact ⟨_, rfl⟩
  | asked request => exact ⟨_, rfl⟩

/-- A run over events on named objects comes to its end. -/
theorem run_of_isNamed (setup : ServiceSetup) (h : ∀ e ∈ events, e.IsNamed) :
    ∃ s, run setup events = .ok s := by
  induction events using List.reverseRecOn with
  | nil => exact ⟨_, rfl⟩
  | append_singleton events e ih =>
      obtain ⟨s, hrun⟩ := ih fun f hf => h f (by simp [hf])
      obtain ⟨s', hstep⟩ := step_of_isNamed s (h e (by simp))
      exact ⟨s', (foldlM_append_singleton_eq_ok_iff step (start setup) events e s').2
        ⟨s, hrun, hstep⟩⟩

/-! ## What a run makes of the models -/

/-- The index of models takes note of the model events and of nothing else. -/
theorem models_of_stepped {e : ServiceEvent} (h : Stepped s e s') :
    e.model?.toList.foldlM ModelIndex.take s.models = .ok s'.models := by
  cases h with
  | @modelApplied model index happly =>
      change [ModelEvent.applied model].foldlM ModelIndex.take s.models = .ok index
      rw [List.foldlM_cons, ModelIndex.take, happly]
      rfl
  | modelDeleted id => rfl
  | mapApplied happly => rfl
  | mapDeleted id => rfl
  | waited span => rfl
  | asked request =>
      rw [(sameSources_handle s request).models]
      rfl

/-- The model events of a run, in their order. -/
def modelEvents (events : List ServiceEvent) : List ModelEvent :=
  events.filterMap ServiceEvent.model?

theorem modelEvents_append_singleton (events : List ServiceEvent) (e : ServiceEvent) :
    modelEvents (events ++ [e]) = modelEvents events ++ e.model?.toList := by
  unfold modelEvents
  rw [List.filterMap_append]
  cases he : e.model? <;> simp [he]

theorem models_of_run (h : run setup events = .ok s) :
    ModelIndex.run (modelEvents events) = .ok s.models := by
  refine run_induction (motive := fun events s =>
    ModelIndex.run (modelEvents events) = .ok s.models) rfl ?_ h
  intro events e s s' hrun hstepped ih
  unfold ModelIndex.run at ih ⊢
  rw [modelEvents_append_singleton, List.foldlM_append, ih]
  exact models_of_stepped hstepped

theorem readTimeout_of_stepped {e : ServiceEvent} (h : Stepped s e s') :
    s'.readTimeout = s.readTimeout := by
  cases h with
  | asked request => exact (sameSources_handle s request).readTimeout
  | _ => rfl

theorem readTimeout_of_run (h : run setup events = .ok s) : s.readTimeout = setup.readTimeout := by
  refine run_induction (motive := fun _ s => s.readTimeout = setup.readTimeout) rfl ?_ h
  intro events e s s' hrun hstepped ih
  rw [readTimeout_of_stepped hstepped, ih]

end DecisionService

end ModelGate

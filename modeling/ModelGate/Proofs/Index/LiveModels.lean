import Mathlib
import ModelGate.Index.Models

/-!
# The models that the index holds

The index is told, event by event, which models there are.  A model is *live* when it was applied
and, since then, neither applied again nor deleted.

`represents_run` says that after any events the index holds exactly the live models, each name's
models in strictly ascending order of their namespaces.  So the index depends on the events only
through the live models that they leave.
-/

namespace ModelGate

open Access (ModelAccess)

/-- A fold that may fail gets behind its last step if and only if it gets to it and the step does. -/
theorem foldlM_append_singleton_eq_ok_iff {α β ε : Type} (f : β → α → Except ε β) (init : β)
    (xs : List α) (x : α) (b : β) :
    (xs ++ [x]).foldlM f init = .ok b ↔ ∃ a, xs.foldlM f init = .ok a ∧ f a x = .ok b := by
  rw [List.foldlM_append]
  cases hfold : xs.foldlM f init with
  | error error =>
      constructor
      · intro h
        cases h
      · rintro ⟨a, ha, -⟩
        cases ha
  | ok a =>
      change [x].foldlM f a = .ok b ↔ _
      rw [List.foldlM_cons]
      constructor
      · intro h
        refine ⟨a, rfl, ?_⟩
        cases hstep : f a x with
        | error error =>
            rw [hstep] at h
            cases h
        | ok next =>
            rw [hstep] at h
            exact h
      · rintro ⟨a', ha, hstep⟩
        cases ha
        rw [hstep]
        rfl

/-- It fails with an error if and only if it does so before its last step or the step does. -/
theorem foldlM_append_singleton_eq_error_iff {α β ε : Type} (f : β → α → Except ε β) (init : β)
    (xs : List α) (x : α) (error : ε) :
    (xs ++ [x]).foldlM f init = .error error ↔
      xs.foldlM f init = .error error ∨ ∃ a, xs.foldlM f init = .ok a ∧ f a x = .error error := by
  rw [List.foldlM_append]
  cases hfold : xs.foldlM f init with
  | error earlier =>
      change Except.error earlier = .error error ↔ _
      simp
  | ok a =>
      change [x].foldlM f a = .error error ↔ _
      rw [List.foldlM_cons]
      cases hstep : f a x with
      | error last =>
          change Except.error last = .error error ↔ _
          simp [hstep]
      | ok next =>
          change Except.ok next = .error error ↔ _
          simp [hstep]

/-- What the index of models is told. -/
inductive ModelEvent where
  /-- A model is as given. -/
  | applied (model : Model)
  /-- There is no model of this id any more. -/
  | deleted (id : ObjectId)

/-- The id of an indexed model. -/
def Access.ModelAccess.id (m : ModelAccess) : ObjectId :=
  ⟨m.ns, m.name⟩

/-- What the index keeps of a model, which needs a namespace and a name: with them the text of its
annotation that lists tiers. -/
def Model.access? (model : Model) : Option ModelAccess :=
  match model.metadata.ns, model.metadata.name with
  | some ns, some name =>
    some ⟨ns, name, model.metadata.annotations.lookup "alpha.maas.opendatahub.io/tiers"⟩
  | _, _ => none

namespace ModelEvent

/-- Whether a model that has a namespace has a name too, as all objects of a cluster do. -/
def IsNamed : ModelEvent → Prop
  | applied model => model.metadata.ns ≠ none → model.metadata.name ≠ none
  | deleted _ => True

/-- The id that an event is about; a model without a namespace has none. -/
def id? : ModelEvent → Option ObjectId
  | applied model => model.access?.map (·.id)
  | deleted id => some id

/-- Whether an event makes a model what it is. -/
def Brings : ModelEvent → ModelAccess → Prop
  | applied model, m => model.access? = some m
  | deleted _, _ => False

theorem Brings.id?_eq {e : ModelEvent} {m : ModelAccess} (h : e.Brings m) : e.id? = some m.id := by
  cases e with
  | applied model =>
      change model.access?.map (·.id) = some m.id
      rw [show model.access? = some m from h]
      rfl
  | deleted id => exact h.elim

end ModelEvent

/-- A model that some event has brought, and that no event was about since. -/
def IsLive (events : List ModelEvent) (m : ModelAccess) : Prop :=
  ∃ before e after, events = before ++ e :: after ∧ e.Brings m ∧ ∀ f ∈ after, f.id? ≠ some m.id

theorem not_isLive_nil (m : ModelAccess) : ¬ IsLive [] m := by
  rintro ⟨before, e, after, hsplit, -, -⟩
  simp at hsplit

/-- One more event brings its model and ends the one of its id that was live before. -/
theorem isLive_append_singleton_iff (events : List ModelEvent) (e : ModelEvent) (m : ModelAccess) :
    IsLive (events ++ [e]) m ↔ e.Brings m ∨ (IsLive events m ∧ e.id? ≠ some m.id) := by
  constructor
  · rintro ⟨before, f, after, hsplit, hbrings, hafter⟩
    -- The event that brought the model is the new one, or the new one is among those after it.
    rcases List.eq_nil_or_concat after with rfl | ⟨rest, g, rfl⟩
    · obtain ⟨-, hlast⟩ := List.append_inj' hsplit rfl
      cases hlast
      exact Or.inl hbrings
    · have hsplit' : events ++ [e] = (before ++ f :: rest) ++ [g] := by
        rw [hsplit]
        simp
      obtain ⟨hevents, hlast⟩ := List.append_inj' hsplit' rfl
      cases hlast
      refine Or.inr ⟨⟨before, f, rest, hevents, hbrings, ?_⟩, hafter e (by simp)⟩
      intro g hg
      exact hafter g (by simp [hg])
  · rintro (hbrings | ⟨⟨before, f, after, rfl, hbrings, hafter⟩, hother⟩)
    · exact ⟨events, e, [], rfl, hbrings, by simp⟩
    · refine ⟨before, f, after ++ [e], by simp, hbrings, ?_⟩
      intro g hg
      rcases List.mem_append.1 hg with hmem | hmem
      · exact hafter g hmem
      · rw [List.mem_singleton.1 hmem]
        exact hother

/-- The events about one id, in their order. -/
def eventsAbout (id : ObjectId) (events : List ModelEvent) : List ModelEvent :=
  events.filter fun e => decide (e.id? = some id)

/-- Whether a model is live rests on the last event about its id alone. -/
theorem isLive_iff_getLast? (events : List ModelEvent) (m : ModelAccess) :
    IsLive events m ↔ ∃ e, (eventsAbout m.id events).getLast? = some e ∧ e.Brings m := by
  induction events using List.reverseRecOn with
  | nil =>
      constructor
      · intro hlive
        exact absurd hlive (not_isLive_nil m)
      · rintro ⟨e, hlast, -⟩
        cases hlast
  | append_singleton events e ih =>
      rw [isLive_append_singleton_iff]
      unfold eventsAbout at ih ⊢
      by_cases hid : e.id? = some m.id
      · simp [List.filter_append, hid]
      · have hbrings : ¬ e.Brings m := fun hm => hid hm.id?_eq
        simp only [List.filter_append, hbrings, ih]
        simp [hid]

namespace ModelIndex

/-- Takes note of an event. -/
def take (index : ModelIndex) : ModelEvent → Except IndexError ModelIndex
  | .applied model => index.apply model
  | .deleted id => .ok (index.erase id.ns id.name)

/-- The index after some events. -/
def run (events : List ModelEvent) : Except IndexError ModelIndex :=
  events.foldlM take empty

/-- The models of a name in a list of names. -/
def modelsOf (name : String) (names : List NamedModels) : List ModelAccess :=
  (names.find? (·.name == name)).elim [] (·.models)

theorem modelsOf_cons (name : String) (entry : NamedModels) (rest : List NamedModels) :
    modelsOf name (entry :: rest) =
      if entry.name = name then entry.models else modelsOf name rest := by
  unfold modelsOf
  by_cases h : entry.name = name <;> simp [h]

theorem modelsOf_eq_nil {name : String} {names : List NamedModels}
    (h : name ∉ names.map (·.name)) : modelsOf name names = [] := by
  induction names with
  | nil => rfl
  | cons entry rest ih =>
      simp only [List.map_cons, List.mem_cons, not_or] at h
      rw [modelsOf_cons, if_neg (Ne.symm h.1), ih h.2]

/-! ## One name's models -/

/-- The models of one name stand in strictly ascending order of their namespaces. -/
def Ascending (models : List ModelAccess) : Prop :=
  models.Pairwise fun a b => a.ns < b.ns

theorem ne_of_later {ns later : String} (h : ns < later) : later ≠ ns := by
  rintro rfl
  exact String.lt_irrefl _ h

theorem mem_insertModel_iff {model m : ModelAccess} {models : List ModelAccess}
    (h : Ascending models) :
    m ∈ insertModel model models ↔ m = model ∨ (m ∈ models ∧ m.ns ≠ model.ns) := by
  induction models with
  | nil => simp [insertModel]
  | cons other rest ih =>
      obtain ⟨hhead, hrest⟩ := List.pairwise_cons.1 h
      unfold insertModel
      by_cases hlt : model.ns < other.ns
      · -- Everything behind the place of the model has a greater namespace.
        have hne : ∀ x ∈ other :: rest, x.ns ≠ model.ns := by
          intro x hx
          rcases List.mem_cons.1 hx with rfl | hx
          · exact ne_of_later hlt
          · exact ne_of_later (String.lt_trans hlt (hhead x hx))
        rw [if_pos hlt]
        simp only [List.mem_cons]
        constructor
        · rintro (rfl | hx)
          · exact Or.inl rfl
          · exact Or.inr ⟨hx, hne m (List.mem_cons.2 hx)⟩
        · rintro (rfl | ⟨hx, -⟩)
          · exact Or.inl rfl
          · exact Or.inr hx
      · rw [if_neg hlt]
        by_cases heq : model.ns = other.ns
        · -- The model takes the place of the one that its namespace had before.
          have hne : ∀ x ∈ rest, x.ns ≠ model.ns := by
            intro x hx
            rw [heq]
            exact ne_of_later (hhead x hx)
          rw [if_pos heq]
          simp only [List.mem_cons]
          constructor
          · rintro (rfl | hx)
            · exact Or.inl rfl
            · exact Or.inr ⟨Or.inr hx, hne m hx⟩
          · rintro (rfl | ⟨rfl | hx, hm⟩)
            · exact Or.inl rfl
            · exact absurd heq.symm hm
            · exact Or.inr hx
        · rw [if_neg heq]
          simp only [List.mem_cons, ih hrest]
          constructor
          · rintro (rfl | rfl | ⟨hx, hm⟩)
            · exact Or.inr ⟨Or.inl rfl, Ne.symm heq⟩
            · exact Or.inl rfl
            · exact Or.inr ⟨Or.inr hx, hm⟩
          · rintro (rfl | ⟨rfl | hx, hm⟩)
            · exact Or.inr (Or.inl rfl)
            · exact Or.inl rfl
            · exact Or.inr (Or.inr ⟨hx, hm⟩)

theorem ascending_insertModel {model : ModelAccess} {models : List ModelAccess}
    (h : Ascending models) : Ascending (insertModel model models) := by
  induction models with
  | nil => exact List.pairwise_singleton _ _
  | cons other rest ih =>
      obtain ⟨hhead, hrest⟩ := List.pairwise_cons.1 h
      unfold insertModel
      by_cases hlt : model.ns < other.ns
      · rw [if_pos hlt]
        refine List.pairwise_cons.2 ⟨?_, h⟩
        intro x hx
        rcases List.mem_cons.1 hx with rfl | hx
        · exact hlt
        · exact String.lt_trans hlt (hhead x hx)
      · rw [if_neg hlt]
        by_cases heq : model.ns = other.ns
        · rw [if_pos heq]
          refine List.pairwise_cons.2 ⟨?_, hrest⟩
          intro x hx
          rw [heq]
          exact hhead x hx
        · rw [if_neg heq]
          refine List.pairwise_cons.2 ⟨?_, ih hrest⟩
          intro x hx
          rcases (mem_insertModel_iff hrest).1 hx with rfl | ⟨hx, -⟩
          · -- The order is total, so what is neither less nor equal is greater.
            exact String.not_le.1 fun hle => heq (String.le_antisymm hle (String.not_lt.1 hlt))
          · exact hhead x hx

/-! ## All names -/

/-- Indexing a model changes the models of its name and no others. -/
theorem modelsOf_insertNamed (model : ModelAccess) (names : List NamedModels) (name : String) :
    modelsOf name (insertNamed model names) =
      if name = model.name then insertModel model (modelsOf name names)
      else modelsOf name names := by
  induction names with
  | nil =>
      rw [insertNamed, modelsOf_cons]
      by_cases h : name = model.name
      · simp [h, modelsOf, insertModel]
      · simp [h, Ne.symm h, modelsOf]
  | cons entry rest ih =>
      unfold insertNamed
      by_cases hentry : entry.name = model.name
      · rw [if_pos hentry]
        simp only [modelsOf_cons, hentry]
        by_cases h : name = model.name
        · simp [h]
        · simp [h, Ne.symm h]
      · rw [if_neg hentry]
        simp only [modelsOf_cons, ih]
        by_cases h : name = model.name
        · simp [h, hentry]
        · simp [h]

/-- Forgetting a model changes the models of its name and no others. -/
theorem modelsOf_eraseNamed {names : List NamedModels} (hnodup : (names.map (·.name)).Nodup)
    (ns erased name : String) :
    modelsOf name (eraseNamed ns erased names) =
      if name = erased then (modelsOf name names).filter (·.ns != ns)
      else modelsOf name names := by
  induction names with
  | nil => simp [eraseNamed, modelsOf]
  | cons entry rest ih =>
      obtain ⟨hfresh, hrest⟩ := List.nodup_cons.1 hnodup
      unfold eraseNamed
      by_cases hentry : entry.name = erased
      · subst hentry
        rw [if_pos rfl]
        by_cases h : name = entry.name
        · subst h
          rw [if_pos rfl, modelsOf_cons, if_pos rfl]
          -- With its last model the name goes, and no other entry bears it.
          split
          · next hnil => rw [modelsOf_eq_nil hfresh, hnil]
          · next hmodels => rw [modelsOf_cons, if_pos rfl]
        · rw [if_neg h, modelsOf_cons, if_neg (Ne.symm h)]
          split
          · rfl
          · rw [modelsOf_cons, if_neg (Ne.symm h)]
      · rw [if_neg hentry, modelsOf_cons, modelsOf_cons, ih hrest]
        by_cases h : name = erased
        · simp [h, hentry]
        · simp [h]

theorem nodup_insertNamed {model : ModelAccess} {names : List NamedModels}
    (h : (names.map (·.name)).Nodup) : ((insertNamed model names).map (·.name)).Nodup := by
  -- The names stay as they are, or the new one comes last.
  have hnames : ∀ names : List NamedModels, (insertNamed model names).map (·.name) =
      if model.name ∈ names.map (·.name) then names.map (·.name)
      else names.map (·.name) ++ [model.name] := by
    intro names
    induction names with
    | nil => simp [insertNamed]
    | cons entry rest ih =>
        unfold insertNamed
        by_cases hentry : entry.name = model.name
        · simp [hentry]
        · rw [if_neg hentry, List.map_cons, ih]
          by_cases hmem : model.name ∈ rest.map (·.name)
          · simp [hmem]
          · simp [hmem, Ne.symm hentry]
  rw [hnames]
  split
  · exact h
  · next hmem =>
      refine List.nodup_append.2 ⟨h, by simp, ?_⟩
      intro name hname other hother heq
      rw [List.mem_singleton.1 hother] at heq
      rw [heq] at hname
      exact hmem hname

theorem nodup_eraseNamed {ns name : String} {names : List NamedModels}
    (h : (names.map (·.name)).Nodup) : ((eraseNamed ns name names).map (·.name)).Nodup := by
  have hsub : ∀ names : List NamedModels,
      ((eraseNamed ns name names).map (·.name)).Sublist (names.map (·.name)) := by
    intro names
    induction names with
    | nil => exact List.Sublist.refl _
    | cons entry rest ih =>
        unfold eraseNamed
        by_cases hentry : entry.name = name
        · rw [if_pos hentry]
          subst hentry
          split
          · exact List.sublist_cons_self _ _
          · exact List.Sublist.refl _
        · rw [if_neg hentry]
          exact ih.cons_cons _
  exact h.sublist (hsub names)

/-! ## The index after its events -/

/-- The index holds exactly the models that are live after the events, in their order. -/
structure Represents (events : List ModelEvent) (index : ModelIndex) : Prop where
  nodup : (index.names.map (·.name)).Nodup
  ascending : ∀ name, Ascending (index.modelsNamed name)
  mem_iff : ∀ name m, m ∈ index.modelsNamed name ↔ IsLive events m ∧ m.name = name

theorem represents_empty : Represents [] empty where
  nodup := List.nodup_nil
  ascending := fun _ => List.Pairwise.nil
  mem_iff := by
    intro name m
    constructor
    · intro hm
      cases hm
    · rintro ⟨hlive, -⟩
      exact absurd hlive (not_isLive_nil m)

theorem represents_insert {events : List ModelEvent} {index : ModelIndex} {model : ModelAccess}
    {e : ModelEvent} (h : Represents events index) (he : e.Brings model)
    (hbrings : ∀ m, e.Brings m → m = model) : Represents (events ++ [e]) (index.insert model) := by
  have hnamed : ∀ name, (index.insert model).modelsNamed name =
      if name = model.name then insertModel model (index.modelsNamed name)
      else index.modelsNamed name := modelsOf_insertNamed model index.names
  refine ⟨nodup_insertNamed h.nodup, ?_, ?_⟩
  · intro name
    rw [hnamed]
    split
    · exact ascending_insertModel (h.ascending name)
    · exact h.ascending name
  · intro name m
    rw [hnamed, isLive_append_singleton_iff, he.id?_eq]
    by_cases hname : name = model.name
    · rw [if_pos hname, mem_insertModel_iff (h.ascending name), h.mem_iff]
      constructor
      · rintro (rfl | ⟨⟨hlive, hm⟩, hns⟩)
        · exact ⟨Or.inl he, hname.symm⟩
        · refine ⟨Or.inr ⟨hlive, ?_⟩, hm⟩
          intro hid
          exact hns (congrArg ObjectId.ns (Option.some.inj hid)).symm
      · rintro ⟨hm | ⟨hlive, hid⟩, hmname⟩
        · exact Or.inl (hbrings m hm)
        · -- Another id of the same name has another namespace.
          refine Or.inr ⟨⟨hlive, hmname⟩, ?_⟩
          intro hns
          apply hid
          simp [Access.ModelAccess.id, hns, hmname, hname]
    · rw [if_neg hname, h.mem_iff]
      constructor
      · rintro ⟨hlive, hm⟩
        refine ⟨Or.inr ⟨hlive, ?_⟩, hm⟩
        intro hid
        have hsame := congrArg ObjectId.name (Option.some.inj hid)
        exact hname (hm.symm.trans hsame.symm)
      · rintro ⟨hm | ⟨hlive, -⟩, hmname⟩
        · exact absurd (hmname.symm.trans (by rw [hbrings m hm])) hname
        · exact ⟨hlive, hmname⟩

theorem represents_erase {events : List ModelEvent} {index : ModelIndex}
    (h : Represents events index) (id : ObjectId) :
    Represents (events ++ [.deleted id]) (index.erase id.ns id.name) := by
  have hnamed : ∀ name, (index.erase id.ns id.name).modelsNamed name =
      if name = id.name then (index.modelsNamed name).filter (·.ns != id.ns)
      else index.modelsNamed name := modelsOf_eraseNamed h.nodup id.ns id.name
  refine ⟨nodup_eraseNamed h.nodup, ?_, ?_⟩
  · intro name
    rw [hnamed]
    split
    · exact List.Pairwise.filter _ (h.ascending name)
    · exact h.ascending name
  · intro name m
    rw [hnamed, isLive_append_singleton_iff]
    have hid : ModelEvent.id? (.deleted id) ≠ some m.id ↔ ¬ (m.ns = id.ns ∧ m.name = id.name) := by
      obtain ⟨ns, n⟩ := id
      simp only [ModelEvent.id?, Access.ModelAccess.id, ne_eq, Option.some.injEq,
        ObjectId.mk.injEq, eq_comm]
    simp only [ModelEvent.Brings, false_or, hid]
    by_cases hname : name = id.name
    · simp only [hname, if_true, List.mem_filter, h.mem_iff, bne_iff_ne]
      constructor
      · rintro ⟨⟨hlive, hm⟩, hns⟩
        exact ⟨⟨hlive, fun hboth => hns hboth.1⟩, hm⟩
      · rintro ⟨⟨hlive, hboth⟩, hm⟩
        exact ⟨⟨hlive, hm⟩, fun hns => hboth ⟨hns, hm⟩⟩
    · simp only [hname, if_false, h.mem_iff]
      constructor
      · rintro ⟨hlive, hm⟩
        exact ⟨⟨hlive, fun hboth => hname (hm.symm.trans hboth.2)⟩, hm⟩
      · rintro ⟨⟨hlive, -⟩, hm⟩
        exact ⟨hlive, hm⟩

/-- A model without a namespace is about no id and brings nothing. -/
theorem represents_skip {events : List ModelEvent} {index : ModelIndex} {e : ModelEvent}
    (h : Represents events index) (hid : e.id? = none) : Represents (events ++ [e]) index := by
  refine ⟨h.nodup, h.ascending, ?_⟩
  intro name m
  have hbrings : ¬ e.Brings m := by
    intro hm
    rw [hm.id?_eq] at hid
    cases hid
  rw [h.mem_iff, isLive_append_singleton_iff, hid]
  simp [hbrings]

/-- What an event makes of the index. -/
inductive Taken (index : ModelIndex) : ModelEvent → ModelIndex → Prop
  | passedOver {model : Model} (h : model.metadata.ns = none) : Taken index (.applied model) index
  | inserted {model : Model} {m : ModelAccess} (h : model.access? = some m) :
      Taken index (.applied model) (index.insert m)
  | erased (id : ObjectId) : Taken index (.deleted id) (index.erase id.ns id.name)

theorem taken_of_take {index next : ModelIndex} {e : ModelEvent} (h : index.take e = .ok next) :
    Taken index e next := by
  cases e with
  | deleted id =>
      cases h
      exact .erased id
  | applied model =>
      change index.apply model = .ok next at h
      cases hns : model.metadata.ns with
      | none =>
          simp only [apply, hns] at h
          cases h
          exact .passedOver hns
      | some ns =>
          cases hname : model.metadata.name with
          | none => simp [apply, hns, hname] at h
          | some name =>
              simp only [apply, hns, hname] at h
              cases h
              refine .inserted ?_
              simp [Model.access?, Model.tiers, Model.tiersKey, hns, hname]

/-- Taking note of one more event keeps the index what the live models make it. -/
theorem represents_take {events : List ModelEvent} {index next : ModelIndex} {e : ModelEvent}
    (h : Represents events index) (htake : index.take e = .ok next) :
    Represents (events ++ [e]) next := by
  cases taken_of_take htake with
  | erased id => exact represents_erase h id
  | passedOver hns => exact represents_skip h (by simp [ModelEvent.id?, Model.access?, hns])
  | inserted haccess =>
      refine represents_insert h haccess fun m hm => ?_
      exact Option.some.inj ((show _ = some m from hm).symm.trans haccess)

/-- After any events the index holds exactly the live models. -/
theorem represents_run {events : List ModelEvent} {index : ModelIndex}
    (h : run events = .ok index) : Represents events index := by
  induction events using List.reverseRecOn generalizing index with
  | nil =>
      cases h
      exact represents_empty
  | append_singleton events e ih =>
      obtain ⟨before, hrun, htake⟩ := (foldlM_append_singleton_eq_ok_iff take empty events e index).1 h
      exact represents_take (ih hrun) htake

end ModelIndex

end ModelGate

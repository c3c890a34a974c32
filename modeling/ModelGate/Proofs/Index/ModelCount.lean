import ModelGate.Proofs.Index.LiveModels
import ModelGate.Proofs.Text.ByteOrder

/-!
# What the index of models answers

The index counts its models name by name, and it is empty when it has no names.  The two agree as
long as no name is left without models (`HaveModels`), which is what a deletion has to see to.  Then
the index has as many entries as there are live models (`encard_liveIds`).

So everything that the index answers depends on the live models alone
(`Represents.sameAnswers`), and `index_answers_live_models` says what it answers after any events.
-/

namespace ModelGate

open Access (ModelAccess)

/-- The ids of the models that are live after some events. -/
def liveIds (events : List ModelEvent) : Set ObjectId :=
  {id | ∃ m, IsLive events m ∧ m.id = id}

namespace ModelIndex

variable {events events' : List ModelEvent} {e f : ModelEvent} {index index' next : ModelIndex}
  {names : List NamedModels}

/-! ## Names without models -/

/-- Every name has a model. -/
def HaveModels (names : List NamedModels) : Prop :=
  ∀ entry ∈ names, entry.models ≠ []

theorem insertModel_ne_nil (model : ModelAccess) (models : List ModelAccess) :
    insertModel model models ≠ [] := by
  cases models with
  | nil => simp [insertModel]
  | cons other rest =>
      unfold insertModel
      split_ifs <;> simp

theorem haveModels_insertNamed {model : ModelAccess} (h : HaveModels names) :
    HaveModels (insertNamed model names) := by
  induction names with
  | nil => simp [insertNamed, HaveModels]
  | cons entry rest ih =>
      obtain ⟨hentry, hrest⟩ := List.forall_mem_cons.1 h
      unfold insertNamed
      split_ifs
      · exact List.forall_mem_cons.2 ⟨insertModel_ne_nil model _, hrest⟩
      · exact List.forall_mem_cons.2 ⟨hentry, ih hrest⟩

theorem haveModels_eraseNamed {ns name : String} (h : HaveModels names) :
    HaveModels (eraseNamed ns name names) := by
  induction names with
  | nil => exact h
  | cons entry rest ih =>
      obtain ⟨hentry, hrest⟩ := List.forall_mem_cons.1 h
      unfold eraseNamed
      split_ifs
      · -- With its last model the name goes.
        split
        · exact hrest
        · next hmodels => exact List.forall_mem_cons.2 ⟨hmodels, hrest⟩
      · exact List.forall_mem_cons.2 ⟨hentry, ih hrest⟩

theorem take_of_no_namespace (index : ModelIndex) {model : Model}
    (h : model.metadata.ns = none) : index.take (.applied model) = .ok index := by
  change index.apply model = .ok index
  unfold apply
  rw [h]

theorem haveModels_of_taken (htaken : Taken index e next) (h : HaveModels index.names) :
    HaveModels next.names := by
  cases htaken with
  | passedOver hns => exact h
  | inserted haccess => exact haveModels_insertNamed h
  | erased id => exact haveModels_eraseNamed h

theorem haveModels_run (h : run events = .ok index) : HaveModels index.names := by
  induction events using List.reverseRecOn generalizing index with
  | nil =>
      cases h
      exact List.forall_mem_nil _
  | append_singleton events e ih =>
      obtain ⟨before, hrun, htake⟩ :=
        (foldlM_append_singleton_eq_ok_iff take empty events e index).1 h
      exact haveModels_of_taken (taken_of_take htake) (ih hrun)

/-- As long as every name has a model, no names means no models. -/
theorem isEmpty_iff_size_eq_zero (h : HaveModels index.names) :
    index.isEmpty = true ↔ index.size = 0 := by
  unfold isEmpty size
  cases hnames : index.names with
  | nil => simp
  | cons entry rest =>
      rw [hnames] at h
      have hpos := List.length_pos_of_ne_nil (h entry List.mem_cons_self)
      rw [List.foldr_cons]
      simp only [List.isEmpty_cons, Bool.false_eq_true, false_iff]
      omega

/-! ## Counting -/

/-- The ids of all models of the index, name by name. -/
def ids (index : ModelIndex) : List ObjectId :=
  index.names.flatMap fun entry => entry.models.map (·.id)

theorem length_ids (index : ModelIndex) : index.ids.length = index.size := by
  unfold ids size
  induction index.names with
  | nil => rfl
  | cons entry rest ih =>
      rw [List.flatMap_cons, List.length_append, List.length_map, ih, List.foldr_cons]

theorem modelsOf_of_mem {entry : NamedModels} (hnodup : (names.map (·.name)).Nodup)
    (h : entry ∈ names) : modelsOf entry.name names = entry.models := by
  induction names with
  | nil => cases h
  | cons other rest ih =>
      obtain ⟨hfresh, hrest⟩ := List.nodup_cons.1 hnodup
      rw [modelsOf_cons]
      rcases List.mem_cons.1 h with rfl | hmem
      · rw [if_pos rfl]
      · have hne : other.name ≠ entry.name := by
          intro heq
          exact hfresh (List.mem_map.2 ⟨entry, hmem, heq.symm⟩)
        rw [if_neg hne, ih hrest hmem]

theorem exists_mem_of_mem_modelsOf {name : String} {m : ModelAccess} (h : m ∈ modelsOf name names) :
    ∃ entry ∈ names, m ∈ entry.models := by
  induction names with
  | nil => cases h
  | cons entry rest ih =>
      rw [modelsOf_cons] at h
      split_ifs at h
      · exact ⟨entry, List.mem_cons_self, h⟩
      · obtain ⟨other, hother, hmem⟩ := ih h
        exact ⟨other, List.mem_cons_of_mem _ hother, hmem⟩

namespace Represents

/-- What stands under a name in the index is live and bears that name. -/
theorem of_mem_models (h : Represents events index) {entry : NamedModels} {m : ModelAccess}
    (hentry : entry ∈ index.names) (hm : m ∈ entry.models) :
    IsLive events m ∧ m.name = entry.name := by
  refine (h.mem_iff entry.name m).1 ?_
  change m ∈ modelsOf entry.name index.names
  rw [modelsOf_of_mem h.nodup hentry]
  exact hm

theorem mem_ids_iff (h : Represents events index) (id : ObjectId) :
    id ∈ index.ids ↔ id ∈ liveIds events := by
  unfold ids
  simp only [List.mem_flatMap, List.mem_map]
  constructor
  · rintro ⟨entry, hentry, m, hm, rfl⟩
    exact ⟨m, (h.of_mem_models hentry hm).1, rfl⟩
  · rintro ⟨m, hlive, rfl⟩
    obtain ⟨entry, hentry, hm⟩ :=
      exists_mem_of_mem_modelsOf ((h.mem_iff m.name m).2 ⟨hlive, rfl⟩)
    exact ⟨entry, hentry, m, hm, rfl⟩

/-- No id is counted twice: the models of a name differ in their namespaces. -/
theorem nodup_ids (h : Represents events index) : index.ids.Nodup := by
  refine List.nodup_flatMap.2 ⟨?_, ?_⟩
  · intro entry hentry
    have hascending := h.ascending entry.name
    change Ascending (modelsOf entry.name index.names) at hascending
    rw [modelsOf_of_mem h.nodup hentry] at hascending
    refine List.pairwise_map.2 (hascending.imp ?_)
    intro a b hlt hid
    exact ne_of_later hlt (congrArg ObjectId.ns hid).symm
  · refine (List.pairwise_map.1 h.nodup).imp_of_mem ?_
    intro entry other hentry hother hne id hid hid'
    obtain ⟨m, hm, rfl⟩ := List.mem_map.1 hid
    obtain ⟨m', hm', heq⟩ := List.mem_map.1 hid'
    have hname : m'.name = m.name := congrArg ObjectId.name heq
    rw [(h.of_mem_models hentry hm).2, (h.of_mem_models hother hm').2] at hname
    exact hne hname.symm

/-- The index has as many entries as there are live models. -/
theorem encard_liveIds (h : Represents events index) : (liveIds events).encard = index.size := by
  have hset : liveIds events = (index.ids.toFinset : Set ObjectId) := by
    ext id
    rw [List.coe_toFinset]
    exact (h.mem_ids_iff id).symm
  rw [hset, Set.encard_coe_eq_coe_finsetCard, List.toFinset_card_of_nodup h.nodup_ids,
    length_ids]

/-- A live model is the one entry of its name in its namespace. -/
theorem filter_modelsNamed (h : Represents events index) {m : ModelAccess}
    (hlive : IsLive events m) :
    (index.modelsNamed m.name).filter (·.ns == m.ns) = [m] := by
  have hmem : m ∈ index.modelsNamed m.name := (h.mem_iff m.name m).2 ⟨hlive, rfl⟩
  have hascending := h.ascending m.name
  obtain ⟨before, after, hsplit⟩ := List.append_of_mem hmem
  rw [hsplit] at hascending ⊢
  obtain ⟨-, hafter, hbefore⟩ := List.pairwise_append.1 hascending
  have hnone : before.filter (·.ns == m.ns) = [] := by
    refine List.filter_eq_nil_iff.2 fun x hx => ?_
    simpa using (ne_of_later (hbefore x hx m List.mem_cons_self)).symm
  have hrest : after.filter (·.ns == m.ns) = [] := by
    refine List.filter_eq_nil_iff.2 fun x hx => ?_
    simpa using ne_of_later ((List.pairwise_cons.1 hafter).1 x hx)
  rw [List.filter_append, hnone, List.filter_cons_of_pos (by simp), hrest, List.nil_append]

end Represents

/-! ## Indexes that answer alike -/

/-- Nobody who asks the two indexes can tell them apart. -/
structure SameAnswers (index index' : ModelIndex) : Prop where
  modelsNamed_eq : ∀ name, index'.modelsNamed name = index.modelsNamed name
  size_eq : index'.size = index.size
  isEmpty_eq : index'.isEmpty = index.isEmpty

/-- Two lists in the order of their namespaces with the same models are the same list. -/
theorem Ascending.eq_of_mem_iff {models models' : List ModelAccess} (h : Ascending models)
    (h' : Ascending models') (hmem : ∀ m, m ∈ models ↔ m ∈ models') : models = models' := by
  have hnodup {models : List ModelAccess} (h : Ascending models) : models.Nodup :=
    List.Pairwise.imp (fun hlt heq => ne_of_later hlt (congrArg _ heq).symm) h
  have hperm := (List.perm_ext_iff_of_nodup (hnodup h) (hnodup h')).2 hmem
  refine hperm.eq_of_pairwise (fun a b _ _ hab hba => ?_) h h'
  exact absurd hba (String.lt_asymm hab)

/-- The index answers by the live models alone. -/
theorem Represents.sameAnswers (h : Represents events index) (h' : Represents events' index')
    (hfull : HaveModels index.names) (hfull' : HaveModels index'.names)
    (hlive : ∀ m, IsLive events m ↔ IsLive events' m) : SameAnswers index index' := by
  have hids : liveIds events' = liveIds events := by
    ext id
    exact exists_congr fun m => and_congr_left fun _ => (hlive m).symm
  have hsize : index'.size = index.size := by
    have hcard := h'.encard_liveIds
    rw [hids, h.encard_liveIds] at hcard
    exact_mod_cast hcard.symm
  refine ⟨fun name => ?_, hsize, ?_⟩
  · refine (h'.ascending name).eq_of_mem_iff (h.ascending name) fun m => ?_
    rw [h'.mem_iff, h.mem_iff, hlive]
  · rw [Bool.eq_iff_iff, isEmpty_iff_size_eq_zero hfull', isEmpty_iff_size_eq_zero hfull, hsize]

/-- Which models are live does not change when events on different ids change places. -/
theorem isLive_swap_iff (before after : List ModelEvent) (h : e.id? ≠ f.id?) (m : ModelAccess) :
    IsLive (before ++ e :: f :: after) m ↔ IsLive (before ++ f :: e :: after) m := by
  have habout : eventsAbout m.id (before ++ e :: f :: after) =
      eventsAbout m.id (before ++ f :: e :: after) := by
    unfold eventsAbout
    simp only [List.filter_append, List.filter_cons, decide_eq_true_eq]
    -- At most one of the two events is about the id.
    split_ifs with he hf
    · exact absurd (he.trans hf.symm) h
    · rfl
    · rfl
    · rfl
  rw [isLive_iff_getLast?, isLive_iff_getLast?, habout]

/-! ## After any events -/

theorem exists_run (hnamed : ∀ e ∈ events, e.IsNamed) : ∃ index, run events = .ok index := by
  induction events using List.reverseRecOn with
  | nil => exact ⟨_, rfl⟩
  | append_singleton events e ih =>
      obtain ⟨index, hrun⟩ := ih fun other hother => hnamed other (by simp [hother])
      obtain ⟨next, htake⟩ : ∃ next, index.take e = .ok next := by
        cases e with
        | deleted id => exact ⟨_, rfl⟩
        | applied model =>
            cases hns : model.metadata.ns with
            | none => exact ⟨index, take_of_no_namespace index hns⟩
            | some ns =>
                obtain ⟨name, hname⟩ := Option.ne_none_iff_exists'.1
                  (hnamed (.applied model) (by simp) (by simp [hns]))
                exact ⟨_, by simp only [take, apply, hns, hname]; rfl⟩
      exact ⟨next, (foldlM_append_singleton_eq_ok_iff take empty events e next).2
        ⟨index, hrun, htake⟩⟩

/-- The run goes on behind a model without a namespace as if there had been none. -/
theorem run_of_no_namespace (before after : List ModelEvent) {model : Model}
    (h : model.metadata.ns = none) :
    run (before ++ .applied model :: after) = run (before ++ after) := by
  unfold run
  rw [List.foldlM_append, List.foldlM_append]
  congr 1
  funext index
  rw [List.foldlM_cons, take_of_no_namespace index h]
  rfl

/-- The index answers as the live models demand. -/
structure AnswersLiveModels (events : List ModelEvent) (index : ModelIndex) : Prop where
  mem_modelsNamed_iff : ∀ name m, m ∈ index.modelsNamed name ↔ IsLive events m ∧ m.name = name
  ascending : ∀ name,
    (index.modelsNamed name).Pairwise fun a b => utf8Bytes a.ns < utf8Bytes b.ns
  one_entry : ∀ m, IsLive events m → (index.modelsNamed m.name).filter (·.ns == m.ns) = [m]
  size_eq : (index.size : ℕ∞) = (liveIds events).encard
  /-- A name goes with its last model. -/
  models_ne_nil : ∀ entry ∈ index.names, entry.models ≠ []
  isEmpty_iff : index.isEmpty = true ↔ index.size = 0

/-- After any events on named models the index answers as the live models demand.  It would be the same
index without the events on models without a namespace, and it would give the same answers if
neighbouring events on different ids had come the other way round. -/
theorem index_answers_live_models (hnamed : ∀ e ∈ events, e.IsNamed) :
    ∃ index, run events = .ok index ∧ AnswersLiveModels events index ∧
      (∀ before model after, events = before ++ .applied model :: after →
        model.metadata.ns = none → run (before ++ after) = .ok index) ∧
      ∀ before e f after, events = before ++ e :: f :: after → e.id? ≠ f.id? →
        ∃ index', run (before ++ f :: e :: after) = .ok index' ∧ SameAnswers index index' := by
  obtain ⟨index, hrun⟩ := exists_run hnamed
  have hrep := represents_run hrun
  have hfull := haveModels_run hrun
  refine ⟨index, hrun, ?_, ?_, ?_⟩
  · exact {
      mem_modelsNamed_iff := hrep.mem_iff
      ascending := fun name => (hrep.ascending name).imp fun h => lt_iff_utf8Bytes_lt.1 h
      one_entry := fun m hlive => hrep.filter_modelsNamed hlive
      size_eq := hrep.encard_liveIds.symm
      models_ne_nil := hfull
      isEmpty_iff := isEmpty_iff_size_eq_zero hfull }
  · rintro before model after rfl hns
    rw [← run_of_no_namespace before after hns]
    exact hrun
  · rintro before e f after rfl hother
    obtain ⟨index', hrun'⟩ : ∃ index', run (before ++ f :: e :: after) = .ok index' :=
      exists_run fun x hx => hnamed x (by simp only [List.mem_append, List.mem_cons] at hx ⊢; tauto)
    exact ⟨index', hrun', hrep.sameAnswers (represents_run hrun') hfull (haveModels_run hrun')
      (isLive_swap_iff before after hother)⟩

/-- A model of the name `granite` with an annotation. -/
def granite (ns : Option String) (tiers : String) : Model where
  metadata := { Metadata.blank with
    name := some "granite", ns, annotations := [("alpha.maas.opendatahub.io/tiers", tiers)] }
  backend := ⟨"ExternalModel", "granite", none⟩
  status := none

/-- Of two models of one name one goes and the other one changes its annotation; a third one has no
namespace. -/
def graniteEvents : List ModelEvent :=
  [.applied (granite (some "b") "[]"), .applied (granite none "[]"),
    .applied (granite (some "a") "[]"), .deleted ⟨"b", "granite"⟩,
    .applied (granite (some "a") "[\"premium\"]")]

/-- One model is left as it was last, and nothing of the other one. -/
theorem granite_is_left_in_one_namespace :
    (∀ e ∈ graniteEvents, e.IsNamed) ∧
      ∃ index, run graniteEvents = .ok index ∧ AnswersLiveModels graniteEvents index ∧
        index.names = [⟨"granite", [⟨"a", "granite", some "[\"premium\"]"⟩]⟩] := by
  have hnamed : ∀ e ∈ graniteEvents, e.IsNamed := by
    simp [graniteEvents, ModelEvent.IsNamed, granite]
  obtain ⟨index, hrun, hanswers, -⟩ := index_answers_live_models hnamed
  refine ⟨hnamed, index, hrun, hanswers, ?_⟩
  have hwhole : run graniteEvents =
      .ok ⟨[⟨"granite", [⟨"a", "granite", some "[\"premium\"]"⟩]⟩]⟩ := by cbv
  rw [hwhole] at hrun
  cases hrun
  rfl

end ModelIndex

end ModelGate

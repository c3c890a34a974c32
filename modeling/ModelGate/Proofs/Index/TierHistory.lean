import ModelGate.Index.Tiers
import ModelGate.Proofs.Tier.Validation

/-!
# The tier mapping as a function of its history

The index is told, event by event, which configuration maps there are.  An event *settles* the
mapping if it is about the configured map and either deletes it or brings a document that can be
accepted.  All other events are passed over, and they leave the index as it is.

`mapping_of_history` says that after any events the mapping is the one that the last settling event
gave, or else the empty one, and that its tiers are well-formed.
-/

namespace ModelGate

open TierDocument (Configures IsRejected)

/-- What the index of tiers is told. -/
inductive MapEvent where
  /-- A configuration map is as given. -/
  | applied (map : ConfigMap)
  /-- There is no configuration map of this id any more. -/
  | deleted (id : ObjectId)

namespace MapEvent

/-- Whether the object of an event has a name, as all objects of a cluster do. -/
def IsNamed : MapEvent → Prop
  | applied map => map.metadata.name ≠ none
  | deleted _ => True

/-- The id of the configuration map that an event is about. -/
def id? : MapEvent → Option ObjectId
  | applied map => map.metadata.name.map fun name => ⟨map.metadata.ns.getD "", name⟩
  | deleted id => some id

/-- The document of a configuration map stands under `tiers`; a missing one is empty. -/
def tiersText (map : ConfigMap) : String :=
  (map.data.lookup "tiers").getD ""

/-- The event gives the mapping anew. -/
inductive Settles (source : ObjectId) : MapEvent → TierMapping → Prop
  | deleted : Settles source (.deleted source) .empty
  | applied {map : ConfigMap} {mapping : TierMapping} (hid : (applied map).id? = some source)
      (h : Configures (tiersText map) mapping) : Settles source (.applied map) mapping

/-- The event says nothing about the mapping: it is about another configuration map, or it brings a
document that is rejected. -/
inductive IsPassedOver (source : ObjectId) : MapEvent → Prop
  | foreign {e : MapEvent} (h : e.id? ≠ some source) : IsPassedOver source e
  | rejected {map : ConfigMap} (h : IsRejected (tiersText map)) :
      IsPassedOver source (.applied map)

theorem settles_or_isPassedOver (source : ObjectId) (e : MapEvent) :
    (∃ mapping, e.Settles source mapping) ∨ e.IsPassedOver source := by
  by_cases hid : e.id? = some source
  · cases e with
    | deleted id =>
        cases hid
        exact Or.inl ⟨_, .deleted⟩
    | applied map =>
        rcases TierDocument.configures_or_isRejected (tiersText map) with ⟨mapping, h⟩ | h
        · exact Or.inl ⟨mapping, .applied hid h⟩
        · exact Or.inr (.rejected h)
  · exact Or.inr (.foreign hid)

theorem Settles.isWellFormed {source : ObjectId} {e : MapEvent} {mapping : TierMapping}
    (h : e.Settles source mapping) : TierMapping.IsWellFormed mapping.entries := by
  cases h with
  | deleted => exact TierMapping.isWellFormed_nil
  | applied hid hconfigures => exact hconfigures.isWellFormed

end MapEvent

/-- The mapping that the last settling event gave, or the empty one if there was none. -/
inductive IsLatestMapping (source : ObjectId) (events : List MapEvent) : TierMapping → Prop
  | unsettled (h : ∀ e ∈ events, e.IsPassedOver source) : IsLatestMapping source events .empty
  | settled {before after : List MapEvent} {e : MapEvent} {mapping : TierMapping}
      (hevents : events = before ++ e :: after) (h : e.Settles source mapping)
      (hafter : ∀ later ∈ after, later.IsPassedOver source) :
      IsLatestMapping source events mapping

namespace IsLatestMapping

variable {source : ObjectId} {events : List MapEvent} {e : MapEvent} {mapping : TierMapping}

theorem append_isPassedOver (h : IsLatestMapping source events mapping)
    (he : e.IsPassedOver source) : IsLatestMapping source (events ++ [e]) mapping := by
  cases h with
  | unsettled hall =>
      refine .unsettled ?_
      intro other hother
      rcases List.mem_append.1 hother with hbefore | hlast
      · exact hall other hbefore
      · rw [List.mem_singleton.1 hlast]
        exact he
  | @settled before after last mapping hevents hsettles hafter =>
      have hsplit : events ++ [e] = before ++ last :: (after ++ [e]) := by
        rw [hevents, List.append_assoc, List.cons_append]
      refine .settled hsplit hsettles ?_
      intro later hlater
      rcases List.mem_append.1 hlater with hbefore | hlast
      · exact hafter later hbefore
      · rw [List.mem_singleton.1 hlast]
        exact he

theorem isWellFormed (h : IsLatestMapping source events mapping) :
    TierMapping.IsWellFormed mapping.entries := by
  cases h with
  | unsettled hall => exact TierMapping.isWellFormed_nil
  | settled hevents hsettles hafter => exact hsettles.isWellFormed

end IsLatestMapping

namespace TierIndex

variable {index : TierIndex} {events : List MapEvent} {e : MapEvent} {mapping : TierMapping}

/-- Takes note of an event. -/
def take (index : TierIndex) : MapEvent → Except IndexError TierIndex
  | .applied map => index.apply map
  | .deleted id => .ok (index.erase id)

/-- The index after some events. -/
def run (source : ObjectId) (events : List MapEvent) : Except IndexError TierIndex :=
  events.foldlM take (new source)

/-! ## Single events -/

theorem load_of_configures {text : String} (h : Configures text mapping) :
    index.load text = ⟨index.source, mapping⟩ := by
  unfold load
  rw [(TierMapping.ofDocument_eq_ok_iff text mapping).2 h]

theorem load_of_isRejected {text : String} (h : IsRejected text) : index.load text = index := by
  obtain ⟨error, herror⟩ := TierMapping.ofDocument_of_isRejected h
  unfold load
  rw [herror]

theorem apply_of_id {map : ConfigMap} {id : ObjectId}
    (hid : (MapEvent.applied map).id? = some id) :
    index.apply map =
      .ok (if index.source = id then index.load (MapEvent.tiersText map) else index) := by
  obtain ⟨name, hname, rfl⟩ := Option.map_eq_some_iff.1 hid
  unfold apply
  rw [hname]
  rfl

theorem take_of_settles (h : e.Settles index.source mapping) :
    index.take e = .ok ⟨index.source, mapping⟩ := by
  cases h with
  | deleted =>
      change Except.ok (index.erase index.source) = _
      unfold erase
      rw [if_pos rfl]
  | @applied map mapping hid hconfigures =>
      change index.apply map = _
      rw [apply_of_id hid, if_pos rfl, load_of_configures hconfigures]

/-- What is passed over leaves the index as it is. -/
theorem take_of_isPassedOver (hnamed : e.IsNamed) (h : e.IsPassedOver index.source) :
    index.take e = .ok index := by
  cases e with
  | deleted id =>
      cases h with
      | foreign hid =>
          have hother : index.source ≠ id := fun hsame => hid (congrArg some hsame.symm)
          change Except.ok (index.erase id) = _
          unfold erase
          rw [if_neg hother]
  | applied map =>
      obtain ⟨name, hname⟩ := Option.ne_none_iff_exists'.1 hnamed
      obtain ⟨id, hid⟩ : ∃ id, (MapEvent.applied map).id? = some id :=
        ⟨_, Option.map_eq_some_iff.2 ⟨name, hname, rfl⟩⟩
      change index.apply map = _
      rw [apply_of_id hid]
      cases h with
      | foreign hforeign =>
          have hother : index.source ≠ id := by
            rintro rfl
            exact hforeign hid
          rw [if_neg hother]
      | rejected hrejected => rw [load_of_isRejected hrejected, ite_self]

/-! ## Whole histories -/

theorem exists_run (source : ObjectId) (hnamed : ∀ e ∈ events, e.IsNamed) :
    ∃ index, run source events = .ok index ∧ index.source = source ∧
      IsLatestMapping source events index.mapping := by
  induction events using List.reverseRecOn with
  | nil => exact ⟨_, rfl, rfl, .unsettled (by simp)⟩
  | append_singleton events e ih =>
      obtain ⟨index, hrun, rfl, hlatest⟩ := ih fun other hother => hnamed other (by simp [hother])
      have hstep : ∀ next, index.take e = .ok next → run index.source (events ++ [e]) = .ok next :=
        fun next htake => (foldlM_append_singleton_eq_ok_iff take _ events e next).2
          ⟨index, hrun, htake⟩
      rcases e.settles_or_isPassedOver index.source with ⟨mapping, hsettles⟩ | hpassed
      · exact ⟨_, hstep _ (take_of_settles hsettles), rfl, .settled rfl hsettles (by simp)⟩
      · exact ⟨index, hstep _ (take_of_isPassedOver (hnamed e (by simp)) hpassed), rfl,
          hlatest.append_isPassedOver hpassed⟩

/-- After any events on named configuration maps the mapping is the one that the last settling event
gave, or else the empty one.  Each further event settles the mapping or leaves the index as it is,
and no two tiers share a name or a level. -/
theorem mapping_of_history (source : ObjectId) (hnamed : ∀ e ∈ events, e.IsNamed) :
    ∃ index, run source events = .ok index ∧ index.source = source ∧
      IsLatestMapping source events index.mapping ∧
      (∀ e : MapEvent, e.IsNamed → e.IsPassedOver source → index.take e = .ok index) ∧
      TierMapping.IsWellFormed index.mapping.entries := by
  obtain ⟨index, hrun, rfl, hlatest⟩ := exists_run source hnamed
  exact ⟨index, hrun, rfl, hlatest, fun e => take_of_isPassedOver, hlatest.isWellFormed⟩

/-- A document with one tier. -/
def goldDocument : String := "- name: gold\n  level: 1\n"

/-- A document whose two tiers share a level. -/
def clashingDocument : String := "- name: free\n  level: 2\n- name: pro\n  level: 2\n"

/-- The configuration map that the tiers come from, with a document. -/
def tiersMap (text : String) : ConfigMap :=
  ⟨{ Metadata.blank with name := some "tiers", ns := some "maas" }, [("tiers", text)]⟩

/-- A tier, then an event on another configuration map, then a document that is rejected. -/
def clashingHistory : List MapEvent :=
  [.applied (tiersMap goldDocument), .deleted ⟨"other", "tiers"⟩,
    .applied (tiersMap clashingDocument)]

theorem configures_goldDocument : Configures goldDocument ⟨[⟨⟨"gold", "gold", 1⟩, []⟩]⟩ := by
  have hread : TierDocument.declarations? goldDocument = some [⟨"gold", none, none, 1, []⟩] := by
    cbv
  exact .declared (TierDocument.not_isBlank (by cbv)) hread ⟨by decide, by decide, by decide⟩

theorem isRejected_clashingDocument : IsRejected clashingDocument := by
  have hread : TierDocument.declarations? clashingDocument =
      some [⟨"free", none, none, 2, []⟩, ⟨"pro", none, none, 2, []⟩] := by
    cbv
  exact .sameLevel (TierDocument.not_isBlank (by cbv)) hread (List.Sublist.refl _) rfl

/-- The clash at the end takes nothing from the tier that was there. -/
theorem clashing_document_keeps_tier :
    (∀ e ∈ clashingHistory, e.IsNamed) ∧
      ∃ index, run ⟨"maas", "tiers"⟩ clashingHistory = .ok index ∧
        IsLatestMapping ⟨"maas", "tiers"⟩ clashingHistory index.mapping ∧
        index.mapping = ⟨[⟨⟨"gold", "gold", 1⟩, []⟩]⟩ := by
  have hnamed : ∀ e ∈ clashingHistory, e.IsNamed := by
    simp [clashingHistory, MapEvent.IsNamed, tiersMap]
  obtain ⟨index, hrun, -, hlatest, -⟩ := mapping_of_history ⟨"maas", "tiers"⟩ hnamed
  refine ⟨hnamed, index, hrun, hlatest, ?_⟩
  -- The documents are read once, and the events are then taken by their kind.
  have hgold : (new ⟨"maas", "tiers"⟩).take (.applied (tiersMap goldDocument)) =
      .ok ⟨⟨"maas", "tiers"⟩, ⟨[⟨⟨"gold", "gold", 1⟩, []⟩]⟩⟩ :=
    take_of_settles (.applied rfl configures_goldDocument)
  have hother : ∀ mapping, take ⟨⟨"maas", "tiers"⟩, mapping⟩ (.deleted ⟨"other", "tiers"⟩) =
      .ok ⟨⟨"maas", "tiers"⟩, mapping⟩ :=
    fun mapping => take_of_isPassedOver trivial (.foreign (by simp [MapEvent.id?]))
  have hclash : ∀ mapping,
      take ⟨⟨"maas", "tiers"⟩, mapping⟩ (.applied (tiersMap clashingDocument)) =
        .ok ⟨⟨"maas", "tiers"⟩, mapping⟩ :=
    fun mapping => take_of_isPassedOver (hnamed _ (by simp [clashingHistory]))
      (.rejected isRejected_clashingDocument)
  have hwhole : run ⟨"maas", "tiers"⟩ clashingHistory =
      .ok ⟨⟨"maas", "tiers"⟩, ⟨[⟨⟨"gold", "gold", 1⟩, []⟩]⟩⟩ := by
    unfold run clashingHistory
    simp only [List.foldlM_cons, List.foldlM_nil, hgold, hother, hclash, bind, Except.bind]
    rfl
  rw [hwhole] at hrun
  cases hrun
  rfl

end TierIndex

end ModelGate

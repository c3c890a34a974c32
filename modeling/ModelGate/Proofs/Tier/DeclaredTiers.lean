import ModelGate.Proofs.Decide.Staleness
import ModelGate.Proofs.Tier.HighestTier

/-!
# Lookups by a tier document

Groups are looked up in the declarations of an accepted document (`lookups_of_document`).  They
have no tier if and only if no declaration shares a group with them.  Otherwise they have the tier
of the highest declaration that does, and it is shown under a text that is not empty.

That text is the first of the display name, the description and the name that is not empty, with
one exception.  A display name takes precedence as soon as it is there, so an empty one hides the
description, and the tier is shown under its name (`TierDeclaration.HidesDescription`).
-/

namespace ModelGate

/-- A text is the first one in a list that is not empty. -/
def IsFirstNonEmpty (texts : List String) (text : String) : Prop :=
  text ≠ "" ∧ ∃ before after, texts = before ++ text :: after ∧ ∀ other ∈ before, other = ""

theorem isFirstNonEmpty_iff {texts : List String} {text : String} :
    IsFirstNonEmpty texts text ↔ texts.find? (· != "") = some text := by
  unfold IsFirstNonEmpty
  rw [List.find?_eq_some_iff_append]
  simp

namespace TierDeclaration

variable {d e : TierDeclaration} {declarations : List TierDeclaration} {groups : List String}
  {tier : Tier} {text : String}

/-! ## What a declared tier is shown as -/

/-- The texts of a declaration, in the order in which they are preferred. -/
def texts (d : TierDeclaration) : List String :=
  d.displayName.toList ++ d.description.toList ++ [d.name]

/-- An empty display name stands in front of a description that is neither empty nor the name. -/
def HidesDescription (d : TierDeclaration) : Prop :=
  d.displayName = some "" ∧ ∃ text, d.description = some text ∧ text ≠ "" ∧ text ≠ d.name

/-- What is known of the text under which a declared tier is shown. -/
structure IsShownAs (d : TierDeclaration) (text : String) : Prop where
  ne_empty : text ≠ ""
  first_iff : IsFirstNonEmpty d.texts text ↔ ¬ d.HidesDescription
  /-- Behind an empty display name there is only the name. -/
  eq_name : d.displayName = some "" → text = d.name

theorem find?_toList (text : Option String) :
    text.toList.find? (· != "") = text.filter (· != "") := by
  cases text with
  | none => rfl
  | some text => simp [List.find?_singleton, Option.filter_some]

theorem find?_texts (hname : d.name ≠ "") :
    d.texts.find? (· != "") =
      some (((d.displayName.filter (· != "")).or (d.description.filter (· != ""))).getD d.name) := by
  have hlast : [d.name].find? (· != "") = some d.name :=
    List.find?_cons_of_pos (by simpa using hname)
  unfold texts
  rw [List.find?_append, List.find?_append, find?_toList, find?_toList, hlast]
  cases (d.displayName.filter (· != "")).or (d.description.filter (· != "")) <;> rfl

theorem shownName_of_empty (h : d.displayName = some "") : d.shownName = d.name := by
  unfold shownName
  rw [h]
  rfl

theorem shownName_of_ne_empty (h : d.displayName ≠ some "") :
    d.shownName =
      ((d.displayName.filter (· != "")).or (d.description.filter (· != ""))).getD d.name := by
  unfold shownName
  cases hdisplay : d.displayName with
  | none => rfl
  | some text =>
      have hne : text ≠ "" := fun hempty => h (by rw [hdisplay, hempty])
      simp [Option.filter_some, hne]

/-- The shown text is the first one, unless an empty display name hides the description. -/
theorem isFirstNonEmpty_shownName_iff (hname : d.name ≠ "") :
    IsFirstNonEmpty d.texts d.shownName ↔ ¬ d.HidesDescription := by
  rw [isFirstNonEmpty_iff, find?_texts hname, Option.some_inj]
  by_cases hempty : d.displayName = some ""
  · rw [shownName_of_empty hempty]
    unfold HidesDescription
    rw [hempty]
    cases d.description with
    | none => simp [Option.filter_some]
    | some text =>
        by_cases htext : text = ""
        · simp [Option.filter_some, htext]
        · simp [Option.filter_some, htext]
  · rw [shownName_of_ne_empty hempty]
    exact iff_of_true rfl fun hhides => hempty hhides.1

theorem shownName_ne_empty (hname : d.name ≠ "") : d.shownName ≠ "" := by
  by_cases hempty : d.displayName = some ""
  · rw [shownName_of_empty hempty]
    exact hname
  · have hfirst : IsFirstNonEmpty d.texts d.shownName :=
      (isFirstNonEmpty_shownName_iff hname).2 fun hhides => hempty hhides.1
    exact hfirst.1

theorem isShownAs_shownName (hname : d.name ≠ "") : d.IsShownAs d.shownName where
  ne_empty := shownName_ne_empty hname
  first_iff := isFirstNonEmpty_shownName_iff hname
  eq_name := shownName_of_empty

/-- A declared tier is shown under one text only. -/
theorem IsShownAs.eq_shownName (h : d.IsShownAs text) (hname : d.name ≠ "") :
    text = d.shownName := by
  by_cases hempty : d.displayName = some ""
  · rw [h.eq_name hempty, shownName_of_empty hempty]
  · have hshows : ¬ d.HidesDescription := fun hhides => hempty hhides.1
    have htext := isFirstNonEmpty_iff.1 (h.first_iff.2 hshows)
    have hshown := isFirstNonEmpty_iff.1 ((isFirstNonEmpty_shownName_iff hname).2 hshows)
    exact Option.some.inj (htext.symm.trans hshown)

/-! ## The highest declaration of some groups -/

/-- The declaration lists one of the groups. -/
def SharesGroup (groups : List String) (d : TierDeclaration) : Prop :=
  ∃ g ∈ groups, g ∈ d.groups

/-- Of the declarations that share a group, one is above all others. -/
structure IsHighestSharing (declarations : List TierDeclaration) (groups : List String)
    (d : TierDeclaration) : Prop where
  mem : d ∈ declarations
  shares : d.SharesGroup groups
  lower : ∀ other ∈ declarations, other.SharesGroup groups → other ≠ d → other.level < d.level

theorem reaches_map_entry_iff :
    TierMapping.Reaches (declarations.map entry) groups tier ↔
      ∃ d ∈ declarations, d.entry.tier = tier ∧ d.SharesGroup groups := by
  unfold TierMapping.Reaches
  simp only [List.mem_map, exists_exists_and_eq_and]
  rfl

/-- Declarations of one tier are one declaration. -/
theorem eq_of_tier_eq (hformed : TierMapping.IsWellFormed (declarations.map entry))
    (hd : d ∈ declarations) (he : e ∈ declarations) (htier : d.entry.tier = e.entry.tier) :
    d = e := by
  have hpairwise := List.pairwise_map.1 hformed.names
  have hnames : (declarations.map fun d => d.entry.tier.name).Nodup :=
    List.pairwise_map.2 hpairwise
  exact List.inj_on_of_nodup_map hnames hd he (congrArg Tier.name htier)

/-- The highest tier that is reached is that of the highest declaration that shares a group. -/
theorem isHighest_iff (hformed : TierMapping.IsWellFormed (declarations.map entry)) :
    TierMapping.IsHighest (TierMapping.Reaches (declarations.map entry) groups) tier ↔
      ∃ d, IsHighestSharing declarations groups d ∧ tier = d.entry.tier := by
  constructor
  · rintro ⟨hmem, hlower⟩
    obtain ⟨d, hd, rfl, hshares⟩ := reaches_map_entry_iff.1 hmem
    refine ⟨d, ⟨hd, hshares, ?_⟩, rfl⟩
    intro other hother hothers hne
    exact hlower other.entry.tier (reaches_map_entry_iff.2 ⟨other, hother, rfl, hothers⟩)
      fun htier => hne (eq_of_tier_eq hformed hother hd htier)
  · rintro ⟨d, ⟨hd, hshares, hlower⟩, rfl⟩
    refine ⟨reaches_map_entry_iff.2 ⟨d, hd, rfl, hshares⟩, ?_⟩
    intro other hreached hne
    obtain ⟨e, he, rfl, hothers⟩ := reaches_map_entry_iff.1 hreached
    exact hlower e he hothers fun hsame => hne (by rw [hsame])

/-- The entry of a declaration is told by its fields and by the text under which it is shown. -/
theorem eq_tier_entry_iff (hname : d.name ≠ "") :
    tier = d.entry.tier ↔
      tier.name = d.name ∧ tier.level = d.level ∧ d.IsShownAs tier.displayName := by
  constructor
  · rintro rfl
    exact ⟨rfl, rfl, isShownAs_shownName hname⟩
  · rintro ⟨hsame, hlevel, hshown⟩
    obtain ⟨name, displayName, level⟩ := tier
    obtain rfl : name = d.name := hsame
    obtain rfl : level = d.level := hlevel
    obtain rfl : displayName = d.shownName := hshown.eq_shownName hname
    rfl

end TierDeclaration

open TierDeclaration (IsHighestSharing)

/-! ## Lookups -/

theorem TierMapping.resolve_eq_none_iff_declared {declarations : List TierDeclaration}
    {groups : List String} :
    (⟨declarations.map TierDeclaration.entry⟩ : TierMapping).resolve groups = none ↔
      ∀ d ∈ declarations, ¬ d.SharesGroup groups := by
  rw [resolve_eq_none_iff]
  constructor
  · rintro hnone d hd ⟨g, hg, hlisted⟩
    exact hnone g hg d.entry (List.mem_map_of_mem hd) hlisted
  · intro hnone g hg entry hentry hlisted
    obtain ⟨d, hd, rfl⟩ := List.mem_map.1 hentry
    exact hnone d hd ⟨g, hg, hlisted⟩

theorem TierMapping.resolve_eq_some_iff_declared {declarations : List TierDeclaration}
    {groups : List String} {tier : Tier}
    (hformed : IsWellFormed (declarations.map TierDeclaration.entry)) :
    (⟨declarations.map TierDeclaration.entry⟩ : TierMapping).resolve groups = some tier ↔
      ∃ d, IsHighestSharing declarations groups d ∧
        tier.name = d.name ∧ tier.level = d.level ∧ d.IsShownAs tier.displayName := by
  rw [resolve_eq_some_iff hformed, TierDeclaration.isHighest_iff hformed]
  refine exists_congr fun d => and_congr_right fun hhighest => ?_
  exact TierDeclaration.eq_tier_entry_iff
    (hformed.named d.entry (List.mem_map_of_mem hhighest.mem))

/-- What is not cached is answered by the present mapping, as far as the clock goes. -/
theorem DecisionService.lookupTier_of_stale {s : DecisionService} {bytes : List UInt8}
    {question : TierQuestion} (hquestion : TierQuestion.ofBytes? bytes = some question)
    (hstale : s.cache.fresh? (.ofGroups question.groups) s.now = none)
    (hclock : (s.now + s.cache.ttl).seconds < 2 ^ 63) :
    (s.lookupTier bytes).1 = .ok (.ofTier (s.tiers.mapping.resolve question.groups)) := by
  have hexpires : TierCache.expiry? s.now s.cache.ttl ≠ none := by
    rw [ne_eq, TierCache.expiry?_eq_none_iff]
    exact Nat.not_le.2 hclock
  obtain ⟨expiresAt, hexpiry⟩ := Option.ne_none_iff_exists'.1 hexpires
  have hresolve : s.cache.resolve s.tiers.mapping s.now (.ofGroups question.groups) = _ :=
    TierCache.resolve_of_stale hstale
  simp only [hexpiry, TierMapping.resolve_ofGroups] at hresolve
  rw [lookupTier_of_ok hquestion hresolve]

/-- The declarations that a document is read as; a blank one has none. -/
inductive TierDocument.Declares (text : String) : List TierDeclaration → Prop
  | blank (h : IsBlank text) : Declares text []
  | listed {declarations : List TierDeclaration} (hblank : ¬ IsBlank text)
      (h : declarations? text = some declarations) : Declares text declarations

/-- The mapping of an accepted document has the entries of its declarations. -/
theorem TierDocument.Declares.of_configures {text : String} {declarations : List TierDeclaration}
    {mapping : TierMapping} (h : Declares text declarations) (hmapping : Configures text mapping) :
    TierMapping.IsWellFormed (declarations.map TierDeclaration.entry) ∧
      mapping = ⟨declarations.map TierDeclaration.entry⟩ := by
  cases h with
  | blank hblank =>
      cases hmapping with
      | blank _ => exact ⟨TierMapping.isWellFormed_nil, rfl⟩
      | declared hnot _ _ => exact absurd hblank hnot
  | listed hblank hread =>
      cases hmapping with
      | blank hnot => exact absurd hnot hblank
      | declared _ hother hformed =>
          rw [hread] at hother
          cases hother
          exact ⟨hformed, rfl⟩

/-- A mapping answers every list of groups by the declarations. -/
structure AnswersDeclared (declarations : List TierDeclaration) (mapping : TierMapping) : Prop where
  none_iff : ∀ groups, mapping.resolve groups = none ↔
    ∀ d ∈ declarations, ¬ d.SharesGroup groups
  some_iff : ∀ groups tier, mapping.resolve groups = some tier ↔
    ∃ d, IsHighestSharing declarations groups d ∧
      tier.name = d.name ∧ tier.level = d.level ∧ d.IsShownAs tier.displayName
  /-- A service that has the mapping, and the groups not cached, answers with their tier. -/
  looked_up : ∀ (s : DecisionService) (bytes : List UInt8) (question : TierQuestion),
    s.tiers.mapping = mapping → TierQuestion.ofBytes? bytes = some question →
    s.cache.fresh? (.ofGroups question.groups) s.now = none →
    (s.now + s.cache.ttl).seconds < 2 ^ 63 →
    ∃ response, (s.lookupTier bytes).1 = .ok response ∧
      AnswersTier (mapping.resolve question.groups) response

/-- Groups are looked up in an accepted document by its declarations. -/
theorem lookups_of_document {text : String} {declarations : List TierDeclaration}
    {mapping : TierMapping} (hread : TierDocument.Declares text declarations)
    (haccepted : TierMapping.ofDocument text = .ok mapping) :
    AnswersDeclared declarations mapping := by
  obtain ⟨hformed, rfl⟩ :=
    hread.of_configures ((TierMapping.ofDocument_eq_ok_iff text mapping).1 haccepted)
  exact {
    none_iff := fun _ => TierMapping.resolve_eq_none_iff_declared
    some_iff := fun _ _ => TierMapping.resolve_eq_some_iff_declared hformed
    looked_up := by
      intro s bytes question hmapping hquestion hstale hclock
      rw [← hmapping]
      exact ⟨_, DecisionService.lookupTier_of_stale hquestion hstale hclock, answersTier_iff.2 rfl⟩ }

/-- A document whose higher tier has an empty display name. -/
def hidingDocument : String :=
  "- name: pro\n  displayName: ''\n  description: Best\n  level: 2\n  groups: [paid]\n" ++
    "- name: free\n  level: 1\n  groups: [all]\n"

def hidingDeclaration : TierDeclaration :=
  ⟨"pro", some "", some "Best", 2, ["paid"]⟩

def hidingDeclarations : List TierDeclaration :=
  [hidingDeclaration, ⟨"free", none, none, 1, ["all"]⟩]

theorem not_isBlank_hidingDocument : ¬ TierDocument.IsBlank hidingDocument :=
  TierDocument.not_isBlank (by decide +kernel)

theorem declarations?_hidingDocument :
    TierDocument.declarations? hidingDocument = some hidingDeclarations := by
  cbv

/-- The higher tier is found and shown under its name, though the first of its texts that is not
empty is the description. -/
theorem hidingDocument_shows_name :
    ∃ mapping, TierDocument.Declares hidingDocument hidingDeclarations ∧
      TierMapping.ofDocument hidingDocument = .ok mapping ∧
      mapping.resolve ["all", "paid"] = some ⟨"pro", "pro", 2⟩ ∧
      IsFirstNonEmpty hidingDeclaration.texts "Best" ∧ mapping.resolve ["nobody"] = none := by
  have hdeclares : TierDocument.Declares hidingDocument hidingDeclarations :=
    .listed not_isBlank_hidingDocument declarations?_hidingDocument
  have hconfigures : TierDocument.Configures hidingDocument
      ⟨hidingDeclarations.map TierDeclaration.entry⟩ :=
    .declared not_isBlank_hidingDocument declarations?_hidingDocument
      ⟨by decide, by decide, by decide⟩
  have haccepted := (TierMapping.ofDocument_eq_ok_iff _ _).2 hconfigures
  have hanswers := lookups_of_document hdeclares haccepted
  have hfirst : IsFirstNonEmpty hidingDeclaration.texts "Best" :=
    ⟨by decide, [""], ["pro"], rfl, by simp⟩
  refine ⟨_, hdeclares, haccepted, ?_, hfirst, ?_⟩
  · have hname : hidingDeclaration.name ≠ "" := by decide
    have hshown : hidingDeclaration.IsShownAs "pro" := by
      have h := TierDeclaration.isShownAs_shownName hname
      rw [TierDeclaration.shownName_of_empty rfl] at h
      exact h
    have hhighest : IsHighestSharing hidingDeclarations ["all", "paid"] hidingDeclaration := by
      refine ⟨List.mem_cons_self, ⟨"paid", by decide⟩, ?_⟩
      intro other hother _ hne
      simp only [hidingDeclarations, List.mem_cons, List.not_mem_nil, or_false] at hother
      rcases hother with rfl | rfl
      · exact absurd rfl hne
      · decide
    exact (hanswers.some_iff _ _).2 ⟨hidingDeclaration, hhighest, rfl, rfl, hshown⟩
  · rw [hanswers.none_iff]
    simp [TierDeclaration.SharesGroup, hidingDeclarations, hidingDeclaration]

end ModelGate

import ModelGate.Proofs.Index.LiveModels
import ModelGate.Tier.Document

/-!
# Which tier documents are accepted

A list of entries is a mapping if and only if every tier has a name and no two of them share a name
or a level, wherever they stand (`ofEntries_eq_ok_iff`).  So a document that is not blank is refused
for one of four reasons, the constructors of `TierDocument.IsRejected`, and every other document
gives the mapping that it `Configures`.
-/

namespace ModelGate

namespace TierMapping

/-- Every tier of a list of entries has a name, and no two tiers share a name or a level. -/
structure IsWellFormed (entries : List TierEntry) : Prop where
  named : ∀ entry ∈ entries, entry.tier.name ≠ ""
  names : entries.Pairwise fun earlier later => earlier.tier.name ≠ later.tier.name
  levels : entries.Pairwise fun earlier later => earlier.tier.level ≠ later.tier.level

theorem isWellFormed_nil : IsWellFormed [] :=
  ⟨by simp, .nil, .nil⟩

theorem isWellFormed_append_singleton_iff {entries : List TierEntry} {entry : TierEntry} :
    IsWellFormed (entries ++ [entry]) ↔
      IsWellFormed entries ∧ entry.tier.name ≠ "" ∧
        (∀ earlier ∈ entries, earlier.tier.name ≠ entry.tier.name) ∧
        ∀ earlier ∈ entries, earlier.tier.level ≠ entry.tier.level := by
  constructor
  · rintro ⟨hnamed, hnames, hlevels⟩
    obtain ⟨hnames, -, hname⟩ := List.pairwise_append.1 hnames
    obtain ⟨hlevels, -, hlevel⟩ := List.pairwise_append.1 hlevels
    refine ⟨⟨fun e he => hnamed e (by simp [he]), hnames, hlevels⟩, hnamed entry (by simp), ?_, ?_⟩
    · exact fun earlier hmem => hname earlier hmem entry (by simp)
    · exact fun earlier hmem => hlevel earlier hmem entry (by simp)
  · rintro ⟨⟨hnamed, hnames, hlevels⟩, hentry, hname, hlevel⟩
    refine ⟨?_, ?_, ?_⟩
    · intro e he
      rcases List.mem_append.1 he with he | he
      · exact hnamed e he
      · rw [List.mem_singleton.1 he]
        exact hentry
    · exact List.pairwise_append.2 ⟨hnames, by simp, by simpa using hname⟩
    · exact List.pairwise_append.2 ⟨hlevels, by simp, by simpa using hlevel⟩

theorem conflict?_eq_none_iff (mapping : TierMapping) (tier : Tier) :
    mapping.conflict? tier = none ↔
      tier.name ≠ "" ∧ (∀ earlier ∈ mapping.entries, earlier.tier.name ≠ tier.name) ∧
        ∀ earlier ∈ mapping.entries, earlier.tier.level ≠ tier.level := by
  unfold conflict? tiers
  split
  · next hname => simp [hname]
  · next hname =>
      split
      · next hany =>
          have hshared : ∃ earlier ∈ mapping.entries, earlier.tier.name = tier.name := by
            simpa using hany
          obtain ⟨earlier, hmem, hsame⟩ := hshared
          simp only [reduceCtorEq, false_iff]
          exact fun h => h.2.1 earlier hmem hsame
      · next hany =>
          have hnames : ∀ earlier ∈ mapping.entries, earlier.tier.name ≠ tier.name := by
            simpa using hany
          simpa [hname] using fun _ => hnames

theorem add_eq_ok_iff (mapping : TierMapping) (entry : TierEntry) (next : TierMapping) :
    mapping.add entry = .ok next ↔
      mapping.conflict? entry.tier = none ∧ next = ⟨mapping.entries ++ [entry]⟩ := by
  unfold add
  cases mapping.conflict? entry.tier with
  | none => simp [eq_comm]
  | some error => simp

/-- A list of entries is a mapping if and only if it is well-formed, and then it is kept as it
is. -/
theorem ofEntries_eq_ok_iff (entries : List TierEntry) (mapping : TierMapping) :
    ofEntries entries = .ok mapping ↔ IsWellFormed entries ∧ mapping = ⟨entries⟩ := by
  -- The induction is from the last entry backwards, since an entry is checked against all before.
  induction entries using List.reverseRecOn generalizing mapping with
  | nil =>
      change Except.ok empty = .ok mapping ↔ _
      simp [isWellFormed_nil, empty, eq_comm]
  | append_singleton entries entry ih =>
      unfold ofEntries at ih ⊢
      rw [foldlM_append_singleton_eq_ok_iff, isWellFormed_append_singleton_iff]
      constructor
      · rintro ⟨before, hbefore, hadd⟩
        obtain ⟨hformed, rfl⟩ := (ih before).1 hbefore
        obtain ⟨hconflict, rfl⟩ := (add_eq_ok_iff _ entry mapping).1 hadd
        exact ⟨⟨hformed, (conflict?_eq_none_iff _ entry.tier).1 hconflict⟩, rfl⟩
      · rintro ⟨⟨hformed, hfits⟩, rfl⟩
        exact ⟨⟨entries⟩, (ih ⟨entries⟩).2 ⟨hformed, rfl⟩,
          (add_eq_ok_iff _ entry _).2 ⟨(conflict?_eq_none_iff _ entry.tier).2 hfits, rfl⟩⟩

end TierMapping

namespace TierDocument

/-- The characters that Unicode counts as white space. -/
def whitespaceChars : List Char :=
  ['\t', '\n', '\x0b', '\x0c', '\r', ' ', '\x85', '\xa0', '\u1680', '\u2000', '\u2001', '\u2002',
    '\u2003', '\u2004', '\u2005', '\u2006', '\u2007', '\u2008', '\u2009', '\u200a', '\u2028',
    '\u2029', '\u202f', '\u205f', '\u3000']

/-- There is nothing but white space in the document. -/
def IsBlank (text : String) : Prop :=
  ∀ c ∈ text.toList, c ∈ whitespaceChars

theorem isWhitespaceChar_iff (c : Char) : isWhitespaceChar c = true ↔ c ∈ whitespaceChars := by
  have hcodes : whitespaceChars.map Char.toNat = [9, 10, 11, 12, 13, 32, 133, 160, 5760, 8192, 8193,
      8194, 8195, 8196, 8197, 8198, 8199, 8200, 8201, 8202, 8232, 8233, 8239, 8287, 12288] := rfl
  have hmem : c ∈ whitespaceChars ↔ c.toNat ∈ whitespaceChars.map Char.toNat := by
    constructor
    · exact fun h => List.mem_map_of_mem h
    · intro h
      obtain ⟨d, hd, hcode⟩ := List.mem_map.1 h
      rw [← Char.toNat_inj.1 hcode]
      exact hd
  rw [hmem, hcodes]
  simp only [isWhitespaceChar, Bool.or_eq_true, Bool.and_eq_true, decide_eq_true_eq, beq_iff_eq,
    List.mem_cons, List.not_mem_nil, or_false]
  omega

theorem isBlankText_iff (text : String) : isBlankText text = true ↔ IsBlank text := by
  simp only [isBlankText, IsBlank, List.all_eq_true, isWhitespaceChar_iff]

theorem not_isBlank {text : String} (h : isBlankText text = false) : ¬ IsBlank text := by
  rw [← isBlankText_iff, h]
  exact Bool.false_ne_true

/-- The document gives the mapping: it is blank, or its declarations are the entries. -/
inductive Configures (text : String) : TierMapping → Prop
  | blank (h : IsBlank text) : Configures text .empty
  | declared {declarations : List TierDeclaration} (hblank : ¬ IsBlank text)
      (hread : declarations? text = some declarations)
      (hformed : TierMapping.IsWellFormed (declarations.map TierDeclaration.entry)) :
      Configures text ⟨declarations.map TierDeclaration.entry⟩

/-- Why a document gives no mapping.  Two declarations that clash may stand anywhere. -/
inductive IsRejected (text : String) : Prop
  | unreadable (hblank : ¬ IsBlank text) (h : declarations? text = none)
  | unnamed {declarations : List TierDeclaration} {d : TierDeclaration}
      (hblank : ¬ IsBlank text) (hread : declarations? text = some declarations)
      (hmem : d ∈ declarations) (hname : d.name = "")
  | sameName {declarations : List TierDeclaration} {earlier later : TierDeclaration}
      (hblank : ¬ IsBlank text) (hread : declarations? text = some declarations)
      (horder : [earlier, later].Sublist declarations) (hname : earlier.name = later.name)
  | sameLevel {declarations : List TierDeclaration} {earlier later : TierDeclaration}
      (hblank : ¬ IsBlank text) (hread : declarations? text = some declarations)
      (horder : [earlier, later].Sublist declarations) (hlevel : earlier.level = later.level)

/-- A document gives a mapping, or there is a reason why not. -/
theorem configures_or_isRejected (text : String) :
    (∃ mapping, Configures text mapping) ∨ IsRejected text := by
  by_cases hblank : IsBlank text
  · exact Or.inl ⟨_, .blank hblank⟩
  cases hread : declarations? text with
  | none => exact Or.inr (.unreadable hblank hread)
  | some declarations =>
      by_cases hnamed : ∀ d ∈ declarations, d.name ≠ ""
      · by_cases hnames : declarations.Pairwise fun a b => a.name ≠ b.name
        · by_cases hlevels : declarations.Pairwise fun a b => a.level ≠ b.level
          · refine Or.inl ⟨_, .declared hblank hread ⟨?_, ?_, ?_⟩⟩
            · simpa [TierDeclaration.entry] using hnamed
            · exact List.pairwise_map.2 hnames
            · exact List.pairwise_map.2 hlevels
          · simp only [List.pairwise_iff_forall_sublist, not_forall, not_not] at hlevels
            obtain ⟨earlier, later, horder, hlevel⟩ := hlevels
            exact Or.inr (.sameLevel hblank hread horder hlevel)
        · simp only [List.pairwise_iff_forall_sublist, not_forall, not_not] at hnames
          obtain ⟨earlier, later, horder, hname⟩ := hnames
          exact Or.inr (.sameName hblank hread horder hname)
      · simp only [not_forall, not_not] at hnamed
        obtain ⟨d, hmem, hname⟩ := hnamed
        exact Or.inr (.unnamed hblank hread hmem hname)

/-- Clashing tiers are no mapping, wherever they stand. -/
theorem not_configures_of_isRejected {text : String} (h : IsRejected text)
    (mapping : TierMapping) : ¬ Configures text mapping := by
  intro hconfigures
  cases hconfigures with
  | blank hblank => cases h <;> simp_all
  | @declared declarations hblank hread hformed =>
      obtain ⟨hnamed, hnames, hlevels⟩ := hformed
      cases h with
      | unreadable _ hnone =>
          rw [hread] at hnone
          cases hnone
      | @unnamed other d _ hother hmem hname =>
          rw [hread] at hother
          cases hother
          exact hnamed d.entry (List.mem_map_of_mem hmem) hname
      | sameName _ hother horder hname =>
          rw [hread] at hother
          cases hother
          exact List.pairwise_iff_forall_sublist.1 (List.pairwise_map.1 hnames) horder hname
      | sameLevel _ hother horder hlevel =>
          rw [hread] at hother
          cases hother
          exact List.pairwise_iff_forall_sublist.1 (List.pairwise_map.1 hlevels) horder hlevel

theorem Configures.isWellFormed {text : String} {mapping : TierMapping}
    (h : Configures text mapping) : TierMapping.IsWellFormed mapping.entries := by
  cases h with
  | blank hblank => exact TierMapping.isWellFormed_nil
  | declared hblank hread hformed => exact hformed

end TierDocument

open TierDocument (Configures IsRejected)

theorem TierMapping.ofDocument_eq_ok_iff (text : String) (mapping : TierMapping) :
    ofDocument text = .ok mapping ↔ Configures text mapping := by
  unfold ofDocument
  by_cases hblank : TierDocument.IsBlank text
  · rw [if_pos ((TierDocument.isBlankText_iff text).2 hblank)]
    constructor
    · intro h
      cases h
      exact .blank hblank
    · intro h
      cases h with
      | blank _ => rfl
      | declared hnot hread hformed => exact absurd hblank hnot
  · rw [if_neg (mt (TierDocument.isBlankText_iff text).1 hblank)]
    cases hread : TierDocument.declarations? text with
    | none =>
        simp only [reduceCtorEq, false_iff]
        exact TierDocument.not_configures_of_isRejected (.unreadable hblank hread) mapping
    | some declarations =>
        dsimp only
        constructor
        · intro h
          cases hentries : ofDeclarations declarations with
          | error error =>
              rw [hentries] at h
              cases h
          | ok built =>
              rw [hentries] at h
              cases h
              obtain ⟨hformed, rfl⟩ := (ofEntries_eq_ok_iff _ mapping).1 hentries
              exact .declared hblank hread hformed
        · intro h
          cases h with
          | blank hnot => exact absurd hnot hblank
          | declared _ hother hformed =>
              rw [hread] at hother
              cases hother
              unfold ofDeclarations
              rw [(ofEntries_eq_ok_iff _ _).2 ⟨hformed, rfl⟩]

/-- A document that is rejected gives an error and no mapping. -/
theorem TierMapping.ofDocument_of_isRejected {text : String} (h : IsRejected text) :
    ∃ error, ofDocument text = .error error := by
  cases hdocument : ofDocument text with
  | error error => exact ⟨error, rfl⟩
  | ok mapping =>
      exact absurd ((ofDocument_eq_ok_iff text mapping).1 hdocument)
        (TierDocument.not_configures_of_isRejected h mapping)

end ModelGate

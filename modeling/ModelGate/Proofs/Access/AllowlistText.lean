import Mathlib
import ModelGate.Access.Allowlist
import ModelGate.Proofs.Json.StringText

/-!
# The text of allowlists

The syntax of an allowlist annotation, as a relation between its text and the tiers that it lists:
nothing at all, or null or a list of strings in JSON, with blanks around every lexeme.

`ofAnnotation_eq_ok_iff` says that exactly these annotations are read, as the tiers that they list;
every other one is an error.
-/

namespace ModelGate.Access

open Json (isBlank skipBlank StringText readString_eq_ok_iff)

/-- Blanks between two lexemes: spaces, tabs and ends of lines. -/
def Blanks (cs : List Char) : Prop :=
  ∀ c ∈ cs, c ∈ [' ', '\t', '\n', '\r']

/-- The items of a list behind one of them, up to the closing bracket. -/
inductive MoreText : List Char → List String → Prop
  | close {gap : List Char} (hgap : Blanks gap) : MoreText (gap ++ [']']) []
  | item {gap gap' written more text : List Char} {tiers : List String} (hgap : Blanks gap)
      (hgap' : Blanks gap') (hwritten : StringText written text) (hmore : MoreText more tiers) :
      MoreText (gap ++ ',' :: (gap' ++ '"' :: (written ++ more))) (String.ofList text :: tiers)

/-- A list behind its opening bracket, up to its closing one. -/
inductive ItemsText : List Char → List String → Prop
  | empty {gap : List Char} (hgap : Blanks gap) : ItemsText (gap ++ [']']) []
  | items {gap written more text : List Char} {tiers : List String} (hgap : Blanks gap)
      (hwritten : StringText written text) (hmore : MoreText more tiers) :
      ItemsText (gap ++ '"' :: (written ++ more)) (String.ofList text :: tiers)

/-- Null or a list of strings, as a whole text. -/
inductive ListText : List Char → List String → Prop
  | null {gap gap' : List Char} (hgap : Blanks gap) (hgap' : Blanks gap') :
      ListText (gap ++ 'n' :: 'u' :: 'l' :: 'l' :: gap') []
  | list {gap gap' written : List Char} {tiers : List String} (hgap : Blanks gap)
      (hgap' : Blanks gap') (hitems : ItemsText written tiers) :
      ListText (gap ++ '[' :: (written ++ gap')) tiers

/-- The tiers that an annotation lists, if it is well formed; none where there is no text. -/
def Lists (written : Option String) (tiers : List String) : Prop :=
  match written with
  | none => tiers = []
  | some text => (text = "" ∧ tiers = []) ∨ ListText text.toList tiers

theorem ListText.ne_nil {cs : List Char} {tiers : List String} (h : ListText cs tiers) :
    cs ≠ [] := by
  cases h <;> simp

/-! ## Blanks -/

theorem isBlank_iff (c : Char) : isBlank c = true ↔ c ∈ [' ', '\t', '\n', '\r'] := by
  simp [isBlank, or_assoc]

theorem blanks_iff (cs : List Char) : Blanks cs ↔ ∀ c ∈ cs, isBlank c = true := by
  simp only [Blanks, isBlank_iff]

theorem skipBlank_append {gap rest : List Char} (hgap : Blanks gap) :
    skipBlank (gap ++ rest) = skipBlank rest :=
  List.dropWhile_append_of_pos ((blanks_iff gap).1 hgap)

theorem skipBlank_cons_of_not_blank {c : Char} {rest : List Char} (h : isBlank c = false) :
    skipBlank (c :: rest) = c :: rest := by
  simp [skipBlank, h]

/-- A text is some blanks and what the reader goes on with. -/
theorem exists_blanks (cs : List Char) : ∃ gap, Blanks gap ∧ cs = gap ++ skipBlank cs := by
  refine ⟨cs.takeWhile isBlank, ?_, ?_⟩
  · rw [blanks_iff]
    intro c hc
    exact List.mem_takeWhile_imp hc
  · exact (List.takeWhile_append_dropWhile (p := isBlank) (l := cs)).symm

theorem skipBlank_eq_nil_iff (cs : List Char) : skipBlank cs = [] ↔ Blanks cs := by
  rw [blanks_iff]
  exact List.dropWhile_eq_nil_iff

/-- What the reader finds at a character behind blanks. -/
theorem skipBlank_gap {gap rest : List Char} {c : Char} (hgap : Blanks gap)
    (hc : isBlank c = false) : skipBlank (gap ++ c :: rest) = c :: rest := by
  rw [skipBlank_append hgap, skipBlank_cons_of_not_blank hc]

namespace AllowedTiers

/-! ## Lists -/

theorem readTier_eq_ok_iff (cs rest : List Char) (tier : String) :
    readTier cs = .ok (tier, rest) ↔
      ∃ written text, StringText written text ∧ tier = String.ofList text ∧
        cs = '"' :: (written ++ rest) := by
  constructor
  · intro h
    unfold readTier at h
    split at h
    · next tail =>
      split at h
      · next text tail' hread =>
        simp only [Except.ok.injEq, Prod.mk.injEq] at h
        obtain ⟨rfl, rfl⟩ := h
        obtain ⟨written, hwritten, rfl⟩ := (readString_eq_ok_iff _ _ _).1 hread
        exact ⟨written, text, hwritten, rfl, rfl⟩
      · cases h
    · cases h
  · rintro ⟨written, text, hwritten, rfl, rfl⟩
    have hread := (readString_eq_ok_iff (written ++ rest) text rest).2 ⟨written, hwritten, rfl⟩
    simp [readTier, hread]

theorem readMore_of_close {cs rest : List Char} (h : skipBlank cs = ']' :: rest) :
    readMore cs = .ok ([], rest) := by
  rw [readMore]
  split
  · next h' => cases h.symm.trans h'
  · next h' =>
    cases h.symm.trans h'
    simp

theorem readMore_of_item {cs tail item next rest : List Char} {tier : String}
    {tiers : List String} (h : skipBlank cs = ',' :: tail) (hitem : skipBlank tail = '"' :: item)
    (htier : readTier ('"' :: item) = .ok (tier, next)) (hmore : readMore next = .ok (tiers, rest)) :
    readMore cs = .ok (tier :: tiers, rest) := by
  rw [readMore]
  split
  · next h' => cases h.symm.trans h'
  · next h' =>
    cases h.symm.trans h'
    rw [if_neg (by decide), if_pos rfl]
    split
    · next h' => cases hitem.symm.trans h'
    · next h' =>
      cases hitem.symm.trans h'
      rw [if_neg (by decide)]
      split
      · next h' => cases htier.symm.trans h'
      · next h' =>
        cases htier.symm.trans h'
        rw [hmore]

/-- The reader takes the rest of a list exactly when it is one. -/
theorem readMore_eq_ok_iff (cs rest : List Char) (tiers : List String) :
    readMore cs = .ok (tiers, rest) ↔ ∃ written, MoreText written tiers ∧ cs = written ++ rest := by
  constructor
  · intro h
    -- Of the reader's cases only the closing bracket and a whole item give a list.
    fun_induction readMore cs generalizing tiers rest with
    | case1 => cases h
    | case2 cs tail hskip =>
        simp only [Except.ok.injEq, Prod.mk.injEq] at h
        obtain ⟨rfl, rfl⟩ := h
        obtain ⟨gap, hgap, hcs⟩ := exists_blanks cs
        rw [hskip] at hcs
        exact ⟨gap ++ [']'], .close hgap, by simp [hcs]⟩
    | case3 => cases h
    | case4 => cases h
    | case5 => cases h
    | case6 => cases h
    | case7 cs tail c item hitem _ tier next htier tiers' rest' hmore hcomma _ ih =>
        simp only [Except.ok.injEq, Prod.mk.injEq] at h
        obtain ⟨rfl, rfl⟩ := h
        obtain ⟨gap, hgap, hcs⟩ := exists_blanks cs
        -- The blanks that the reader skipped are the gaps of the item.
        obtain ⟨gap', hgap', htail⟩ := exists_blanks tail
        obtain ⟨written, text, hwritten, rfl, htext⟩ := (readTier_eq_ok_iff _ _ _).1 htier
        obtain ⟨more, hmoreText, rfl⟩ := ih _ _ hmore
        refine ⟨_, .item hgap hgap' hwritten hmoreText, ?_⟩
        rw [hcs, hcomma, htail, hitem, htext]
        simp
    | case8 => cases h
  · rintro ⟨written, hwritten, rfl⟩
    induction hwritten with
    | close hgap =>
        apply readMore_of_close
        rw [List.append_assoc]
        exact skipBlank_gap hgap rfl
    | @item gap gap' written more text tiers hgap hgap' htext hmore ih =>
        have hcomma : skipBlank (gap ++ ',' :: (gap' ++ '"' :: (written ++ more)) ++ rest) =
            ',' :: (gap' ++ '"' :: (written ++ (more ++ rest))) := by
          rw [List.append_assoc]
          simp [skipBlank_gap (c := ',') hgap rfl]
        have htier : readTier ('"' :: (written ++ (more ++ rest))) =
            .ok (String.ofList text, more ++ rest) :=
          (readTier_eq_ok_iff _ _ _).2 ⟨written, text, htext, rfl, rfl⟩
        exact readMore_of_item hcomma (skipBlank_gap hgap' rfl) htier ih

theorem readItems_eq_ok_iff (cs rest : List Char) (tiers : List String) :
    readItems cs = .ok (tiers, rest) ↔
      ∃ written, ItemsText written tiers ∧ cs = written ++ rest := by
  constructor
  · intro h
    obtain ⟨gap, hgap, hcs⟩ := exists_blanks cs
    unfold readItems at h
    split at h
    · cases h
    · next c tail hskip =>
      rw [hskip] at hcs
      split at h
      · next hc =>
        subst hc
        simp only [Except.ok.injEq, Prod.mk.injEq] at h
        obtain ⟨rfl, rfl⟩ := h
        exact ⟨gap ++ [']'], .empty hgap, by simp [hcs]⟩
      · cases htier : readTier (c :: tail) with
        | error fault => simp [htier, bind, Except.bind] at h
        | ok found =>
            obtain ⟨tier, next⟩ := found
            cases hmore : readMore next with
            | error fault => simp [htier, hmore, bind, Except.bind] at h
            | ok found =>
                obtain ⟨tiers', rest'⟩ := found
                simp only [htier, hmore, bind, Except.bind, pure, Except.pure, Except.ok.injEq,
                  Prod.mk.injEq] at h
                obtain ⟨rfl, rfl⟩ := h
                obtain ⟨written, text, hwritten, rfl, hitem⟩ := (readTier_eq_ok_iff _ _ _).1 htier
                obtain ⟨more, hmoreText, rfl⟩ := (readMore_eq_ok_iff _ _ _).1 hmore
                refine ⟨_, .items hgap hwritten hmoreText, ?_⟩
                rw [hcs, hitem]
                simp
  · rintro ⟨written, hwritten, rfl⟩
    cases hwritten with
    | @empty gap hgap =>
        have hskip : skipBlank (gap ++ [']'] ++ rest) = ']' :: rest := by
          rw [List.append_assoc]
          exact skipBlank_gap hgap rfl
        simp only [readItems, hskip]
        simp
    | @items gap written more text tiers hgap htext hmore =>
        have hskip : skipBlank (gap ++ '"' :: (written ++ more) ++ rest) =
            '"' :: (written ++ (more ++ rest)) := by
          rw [List.append_assoc]
          simp [skipBlank_gap (c := '"') hgap rfl]
        have htier : readTier ('"' :: (written ++ (more ++ rest))) =
            .ok (String.ofList text, more ++ rest) :=
          (readTier_eq_ok_iff _ _ _).2 ⟨written, text, htext, rfl, rfl⟩
        have hrest := (readMore_eq_ok_iff (more ++ rest) rest tiers).2 ⟨more, hmore, rfl⟩
        simp only [readItems, hskip, htier, hrest, bind, Except.bind, pure, Except.pure]
        simp

theorem readWord_eq_ok_iff (word cs rest : List Char) :
    Json.readWord word cs = .ok rest ↔ cs = word ++ rest := by
  induction word generalizing cs with
  | nil =>
      constructor
      · intro h
        cases h
        rfl
      · rintro rfl
        rfl
  | cons w word ih =>
      cases cs with
      | nil => simp [Json.readWord]
      | cons c cs =>
          by_cases hw : w = c
          · subst hw
            simp [Json.readWord, ih]
          · simp [Json.readWord, hw, Ne.symm hw]

/-- The reader takes a value of the wanted type, behind blanks, from the front of a text. -/
theorem readValue_eq_ok_iff (cs rest : List Char) (tiers : List String) :
    readValue cs = .ok (tiers, rest) ↔
      ∃ gap, Blanks gap ∧
        ((cs = gap ++ 'n' :: 'u' :: 'l' :: 'l' :: rest ∧ tiers = []) ∨
          ∃ written, ItemsText written tiers ∧ cs = gap ++ '[' :: (written ++ rest)) := by
  constructor
  · intro h
    obtain ⟨gap, hgap, hcs⟩ := exists_blanks cs
    refine ⟨gap, hgap, ?_⟩
    unfold readValue at h
    split at h
    · next tail hskip =>
      rw [hskip] at hcs
      cases hword : Json.readWord ['u', 'l', 'l'] tail with
      | error fault => simp [hword, bind, Except.bind] at h
      | ok found =>
          simp only [hword, bind, Except.bind, pure, Except.pure, Except.ok.injEq,
            Prod.mk.injEq] at h
          obtain ⟨rfl, rfl⟩ := h
          rw [readWord_eq_ok_iff] at hword
          exact Or.inl ⟨by rw [hcs, hword]; rfl, rfl⟩
    · next tail hskip =>
      rw [hskip] at hcs
      obtain ⟨written, hitems, rfl⟩ := (readItems_eq_ok_iff _ _ _).1 h
      exact Or.inr ⟨written, hitems, hcs⟩
    · cases h
  · rintro ⟨gap, hgap, ⟨rfl, rfl⟩ | ⟨written, hitems, rfl⟩⟩
    · have hword := (readWord_eq_ok_iff ['u', 'l', 'l'] ('u' :: 'l' :: 'l' :: rest) rest).2 rfl
      simp only [readValue, skipBlank_gap (c := 'n') hgap rfl, hword]
      rfl
    · simp only [readValue, skipBlank_gap (c := '[') hgap rfl]
      exact (readItems_eq_ok_iff _ _ _).2 ⟨written, hitems, rfl⟩

/-- A whole text lists tiers when they are read from its front and only blanks are left. -/
theorem listText_iff (cs : List Char) (tiers : List String) :
    ListText cs tiers ↔ ∃ rest, readValue cs = .ok (tiers, rest) ∧ Blanks rest := by
  constructor
  · intro h
    cases h with
    | @null gap gap' hgap hgap' =>
        exact ⟨gap', (readValue_eq_ok_iff _ _ _).2 ⟨gap, hgap, Or.inl ⟨rfl, rfl⟩⟩, hgap'⟩
    | @list gap gap' written _ hgap hgap' hitems =>
        exact ⟨gap', (readValue_eq_ok_iff _ _ _).2
          ⟨gap, hgap, Or.inr ⟨written, hitems, rfl⟩⟩, hgap'⟩
  · rintro ⟨rest, hvalue, hrest⟩
    obtain ⟨gap, hgap, ⟨rfl, rfl⟩ | ⟨written, hitems, rfl⟩⟩ := (readValue_eq_ok_iff _ _ _).1 hvalue
    · exact .null hgap hrest
    · exact .list hgap hrest hitems

/-! ## Annotations -/

theorem ofList_injective : Function.Injective ofList := by
  intro tiers others h
  cases tiers <;> cases others <;> simp_all [ofList]

/-- A list of tiers permits all of them, or every tier when it is empty. -/
theorem permits_ofList_iff (tier : String) (tiers : List String) :
    (ofList tiers).permits tier = true ↔ tiers = [] ∨ tier ∈ tiers := by
  cases tiers <;> simp [ofList, permits]

/-- Every allowlist that is read stands for a list of tiers. -/
theorem exists_ofList_of_parse {text : String} {allowed : AllowedTiers}
    (h : parse text = .ok allowed) : ∃ tiers, allowed = ofList tiers := by
  unfold parse at h
  split at h
  · cases h
    exact ⟨[], rfl⟩
  · cases hvalue : readValue text.toList with
    | error fault => simp [hvalue, bind, Except.bind] at h
    | ok found =>
        simp only [hvalue, bind, Except.bind] at h
        split at h
        · cases h
          exact ⟨found.1, rfl⟩
        · cases h

/-- A text is read exactly when it is empty or lists tiers, and then as these tiers. -/
theorem parse_eq_ok_iff (text : String) (tiers : List String) :
    parse text = .ok (ofList tiers) ↔ Lists (some text) tiers := by
  by_cases hempty : text = ""
  · subst hempty
    have hno : ¬ ListText "".toList tiers := fun h => h.ne_nil rfl
    simp only [parse, if_true, Lists, true_and, hno, or_false, Except.ok.injEq]
    exact ⟨fun h => ofList_injective h.symm, fun h => by rw [h]; rfl⟩
  · simp only [Lists, hempty, false_and, false_or]
    rw [listText_iff, parse, if_neg hempty]
    constructor
    · intro h
      cases hvalue : readValue text.toList with
      | error fault => simp [hvalue, bind, Except.bind] at h
      | ok found =>
          obtain ⟨tiers', rest⟩ := found
          simp only [hvalue, bind, Except.bind] at h
          split at h
          · next hrest =>
            have hsame : tiers' = tiers := ofList_injective (Except.ok.inj h)
            exact ⟨rest, by rw [hsame], (skipBlank_eq_nil_iff rest).1 hrest⟩
          · cases h
    · rintro ⟨rest, hvalue, hrest⟩
      rw [hvalue]
      simp only [bind, Except.bind, if_pos ((skipBlank_eq_nil_iff rest).2 hrest)]
      rfl

/-- Exactly the well-formed annotations are read, as the tiers that they list. -/
theorem ofAnnotation_eq_ok_iff (written : Option String) (tiers : List String) :
    ofAnnotation written = .ok (ofList tiers) ↔ Lists written tiers := by
  cases written with
  | none =>
      simp only [Option.elim, ofAnnotation, Lists, Except.ok.injEq]
      exact ⟨fun h => ofList_injective h.symm, fun h => by rw [h]; rfl⟩
  | some text => exact parse_eq_ok_iff text tiers

/-- Every annotation that is read stands for a list of tiers. -/
theorem exists_ofList_of_ofAnnotation {written : Option String} {allowed : AllowedTiers}
    (h : ofAnnotation written = .ok allowed) : ∃ tiers, allowed = ofList tiers := by
  cases written with
  | none =>
      cases h
      exact ⟨[], rfl⟩
  | some text => exact exists_ofList_of_parse h

/-- An annotation is an error exactly when it is not well formed. -/
theorem ofAnnotation_isError_iff (written : Option String) :
    (∃ fault, ofAnnotation written = .error fault) ↔ ∀ tiers, ¬ Lists written tiers := by
  constructor
  · rintro ⟨fault, hfault⟩ tiers hlists
    rw [← ofAnnotation_eq_ok_iff, hfault] at hlists
    cases hlists
  · intro hnone
    cases hread : ofAnnotation written with
    | error fault => exact ⟨fault, rfl⟩
    | ok allowed =>
        obtain ⟨tiers, rfl⟩ := exists_ofList_of_ofAnnotation hread
        exact absurd ((ofAnnotation_eq_ok_iff _ _).1 hread) (hnone tiers)

end AllowedTiers

end ModelGate.Access

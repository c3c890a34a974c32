import ModelGate.Proofs.Json.Grammar

/-!
# Annotations that are JSON

What an allowlist annotation is read as, in terms of the grammar of JSON.  Null and lists of strings
are the only values that are read (`listText_iff_jsonText`), and a text that starts with any other value, or
goes on behind a value with something that is not blank, is an error (`value_unique`).  So is every text
in which a string of the list runs into half a surrogate pair, whatever follows there.

`annotations_fail_closed` puts this together: an annotation that is not well formed permits no tier, and
one that is well formed permits the tiers that it lists, or all of them if it lists none.
-/

namespace ModelGate.Access

open Json (Fault IsHighSurrogate IsLowSurrogate HexFour Items JsonText MoreItems PieceText StringText
  ValueText isBlank)

variable {gap gap' rest rest' written written' text : List Char} {tiers : List String} {v : Json}

/-! ## One reading only -/

/-- Behind blanks a text goes on in one way. -/
theorem gap_unique {c d : Char} (hgap : Blanks gap) (hgap' : Blanks gap') (hc : isBlank c = false)
    (hd : isBlank d = false) (heq : gap ++ c :: rest = gap' ++ d :: rest') :
    c = d ∧ rest = rest' := by
  have hskip := (skipBlank_gap hgap hc).symm.trans ((congrArg _ heq).trans (skipBlank_gap hgap' hd))
  exact ⟨(List.cons.inj hskip).1, (List.cons.inj hskip).2⟩

/-- Where a string is read no other value stands. -/
theorem item_unique (hgap : Blanks gap) (hgap' : Blanks gap') (hwritten : StringText written text)
    (hvalue : ValueText written' v) (heq : gap ++ '"' :: (written ++ rest) =
      gap' ++ (written' ++ rest')) : v = .str (String.ofList text) ∧ rest = rest' := by
  obtain ⟨c, tail, rfl, hstart⟩ := hvalue.start
  obtain ⟨rfl, htail⟩ := gap_unique hgap hgap' rfl hstart.not_blank heq
  cases hstart with
  | string h =>
      obtain ⟨rfl, hrest⟩ := hwritten.unique h htail
      exact ⟨rfl, hrest⟩
  | other hblank hother => exact absurd (by decide) hother

theorem MoreText.unique {items : List Json} (h : MoreText written tiers)
    (h' : MoreItems ValueText ']' written' items) (heq : written ++ rest = written' ++ rest') :
    items = tiers.map .str ∧ rest = rest' := by
  -- Both readings go on side by side: the character behind the gap is a comma or the bracket.
  induction h generalizing written' items with
  | close hgap =>
      cases h' with
      | close hgap' =>
          obtain ⟨-, hrest⟩ := gap_unique hgap hgap' rfl rfl (by simpa using heq)
          exact ⟨rfl, hrest⟩
      | next hgap' _ _ _ =>
          obtain ⟨hclose, -⟩ := gap_unique hgap hgap' rfl rfl (by simpa using heq)
          exact absurd hclose (by decide)
  | item hgap hgapItem hwritten hmore ih =>
      cases h' with
      | close hgap' =>
          obtain ⟨hcomma, -⟩ := gap_unique hgap hgap' rfl rfl (by simpa using heq)
          exact absurd hcomma (by decide)
      | next hgap' hgapItem' hitem hmore' =>
          obtain ⟨-, hitems⟩ := gap_unique hgap hgap' rfl rfl (by simpa using heq)
          obtain ⟨rfl, hfollowing⟩ :=
            item_unique hgapItem hgapItem' hwritten hitem (by simpa using hitems)
          obtain ⟨rfl, hrest⟩ := ih hmore' hfollowing
          exact ⟨rfl, hrest⟩

theorem ItemsText.unique {items : List Json} (h : ItemsText written tiers)
    (h' : Items ValueText ']' written' items) (heq : written ++ rest = written' ++ rest') :
    items = tiers.map .str ∧ rest = rest' := by
  cases h with
  | empty hgap =>
      cases h' with
      | empty hgap' =>
          obtain ⟨-, hrest⟩ := gap_unique hgap hgap' rfl rfl (by simpa using heq)
          exact ⟨rfl, hrest⟩
      | items hgap' hitem hmore' =>
          obtain ⟨c, tail, rfl, hstart⟩ := hitem.start
          obtain ⟨rfl, -⟩ := gap_unique hgap hgap' rfl hstart.not_blank (by simpa using heq)
          exact hstart.not_close.elim
  | items hgap hwritten hmore =>
      cases h' with
      | empty hgap' =>
          obtain ⟨hclose, -⟩ := gap_unique hgap hgap' rfl rfl (by simpa using heq)
          exact absurd hclose (by decide)
      | items hgap' hitem hmore' =>
          obtain ⟨rfl, hfollowing⟩ := item_unique hgap hgap' hwritten hitem (by simpa using heq)
          obtain ⟨rfl, hrest⟩ := hmore.unique hmore' hfollowing
          exact ⟨rfl, hrest⟩

/-- What is read from the front of a text is the value that stands there. -/
theorem value_unique (hread : AllowedTiers.readValue (gap ++ (written ++ rest')) = .ok (tiers, rest))
    (hgap : Blanks gap) (hvalue : ValueText written v) :
    rest = rest' ∧ ((tiers = [] ∧ v = .null) ∨ v = .ofStrings tiers) := by
  obtain ⟨c, tail, rfl, hstart⟩ := hvalue.start
  -- The reader has found null or a list, so the value starts as one of these.
  obtain ⟨gap', hgap', hform⟩ := (AllowedTiers.readValue_eq_ok_iff _ _ _).1 hread
  rcases hform with ⟨heq, rfl⟩ | ⟨items, hitems, heq⟩
  · obtain ⟨rfl, htail⟩ := gap_unique hgap hgap' hstart.not_blank rfl heq
    cases hstart with
    | null => exact ⟨(List.append_cancel_left htail).symm, Or.inl ⟨rfl, rfl⟩⟩
    | other hblank hother => exact absurd (by decide) hother
  · obtain ⟨rfl, htail⟩ := gap_unique hgap hgap' hstart.not_blank rfl heq
    cases hstart with
    | list h =>
        obtain ⟨rfl, hrest⟩ := hitems.unique h htail.symm
        exact ⟨hrest, Or.inr rfl⟩
    | other hblank hother => exact absurd (by decide) hother

/-! ## Lists of strings in the grammar -/

theorem moreItems_iff_moreText :
    MoreItems ValueText ']' written (tiers.map .str) ↔ MoreText written tiers := by
  constructor
  · intro h
    generalize hitems : tiers.map Json.str = items at h
    induction h generalizing tiers with
    | close hgap =>
        obtain rfl := List.map_eq_nil_iff.1 hitems
        exact .close hgap
    | next hgap hgap' hitem hmore ih =>
        obtain ⟨tier, others, rfl, rfl, hothers⟩ := List.map_eq_cons_iff.1 hitems
        cases hitem with
        | string h => exact .item hgap hgap' h (ih hothers)
  · intro h
    induction h with
    | close hgap => exact .close hgap
    | item hgap hgap' hwritten hmore ih => exact .next hgap hgap' (.string hwritten) ih

theorem items_iff_itemsText :
    Items ValueText ']' written (tiers.map .str) ↔ ItemsText written tiers := by
  constructor
  · intro h
    generalize hitems : tiers.map Json.str = items at h
    cases h with
    | empty hgap =>
        obtain rfl := List.map_eq_nil_iff.1 hitems
        exact .empty hgap
    | items hgap hitem hmore =>
        obtain ⟨tier, others, rfl, rfl, rfl⟩ := List.map_eq_cons_iff.1 hitems
        cases hitem with
        | string h => exact .items hgap h (moreItems_iff_moreText.1 hmore)
  · intro h
    cases h with
    | empty hgap => exact .empty hgap
    | items hgap hwritten hmore =>
        exact .items hgap (.string hwritten) (moreItems_iff_moreText.2 hmore)

/-- The texts that list tiers are those of null and of lists of strings. -/
theorem listText_iff_jsonText {text : String} :
    ListText text.toList tiers ↔
      (JsonText text .null ∧ tiers = []) ∨ JsonText text (.ofStrings tiers) := by
  constructor
  · intro h
    generalize htext : text.toList = cs at h
    cases h with
    | null hgap hgap' =>
        exact Or.inl ⟨⟨_, _, _, hgap, .null, hgap', htext⟩, rfl⟩
    | list hgap hgap' hitems =>
        exact Or.inr ⟨_, _, _, hgap, .list (items_iff_itemsText.2 hitems), hgap', htext⟩
  · rintro (⟨⟨gap, written, gap', hgap, hvalue, hgap', htext⟩, rfl⟩ |
      ⟨gap, written, gap', hgap, hvalue, hgap', htext⟩)
    · rw [htext]
      cases hvalue with
      | null => exact .null hgap hgap'
    · rw [htext]
      cases hvalue with
      | list h => exact .list hgap hgap' (items_iff_itemsText.1 h)

/-! ## Halves of surrogate pairs -/

/-- The contents of a string that run into half a surrogate pair; what follows does not matter. -/
inductive MeetsHalfPair : List Char → Prop
  | low {digits rest : List Char} {n : Nat} (hdigits : HexFour digits n) (hlow : IsLowSurrogate n) :
      MeetsHalfPair ('\\' :: 'u' :: (digits ++ rest))
  | high {digits rest : List Char} {n : Nat} (hdigits : HexFour digits n)
      (hhigh : IsHighSurrogate n)
      (hhalf : ∀ low m more, HexFour low m → IsLowSurrogate m →
        rest ≠ '\\' :: 'u' :: (low ++ more)) :
      MeetsHalfPair ('\\' :: 'u' :: (digits ++ rest))
  | behind {written rest : List Char} {c : Char} (hpiece : PieceText written c)
      (hrest : MeetsHalfPair rest) : MeetsHalfPair (written ++ rest)

/-- The code at the front of a text is no half of a pair if a character is written there. -/
theorem not_half_of_pieceText {digits : List Char} {n : Nat} {c : Char} (hdigits : HexFour digits n)
    (hpiece : PieceText written c) (heq : '\\' :: 'u' :: (digits ++ rest) = written ++ rest') :
    ¬ IsLowSurrogate n ∧ (IsHighSurrogate n → ∃ low m more, HexFour low m ∧ IsLowSurrogate m ∧
      rest = '\\' :: 'u' :: (low ++ more)) := by
  cases hpiece with
  | plain hquote hslash hcontrol =>
      exact absurd (List.cons.inj heq).1.symm hslash
  | short h =>
      obtain rfl := (List.cons.inj (List.cons.inj heq).2).1
      exact absurd h (Json.not_mem_shortEscapes_u _)
  | code hdigits' hhigh hlow =>
      obtain ⟨rfl, -⟩ := hdigits.unique hdigits' (List.cons.inj (List.cons.inj heq).2).2
      exact ⟨hlow, fun h => absurd h hhigh⟩
  | @pair high low _ m hdigits' hm hhigh hlow =>
      have htail : digits ++ rest = high ++ '\\' :: 'u' :: (low ++ rest') := by simpa using heq
      obtain ⟨rfl, hrest⟩ := hdigits.unique hdigits' htail
      refine ⟨fun h => ?_, fun _ => ⟨low, m, rest', hm, hlow, hrest⟩⟩
      unfold IsLowSurrogate at h
      unfold IsHighSurrogate at hhigh
      omega

/-- There is no string to be read where half a surrogate pair comes first. -/
theorem MeetsHalfPair.ne_string {cs : List Char} (h : MeetsHalfPair cs)
    (hstring : StringText written text) : cs ≠ written ++ rest := by
  induction h generalizing written text with
  | low hdigits hlow =>
      intro heq
      cases hstring with
      | close => cases heq
      | piece hpiece hmore =>
          rw [List.append_assoc] at heq
          exact (not_half_of_pieceText hdigits hpiece heq).1 hlow
  | high hdigits hhigh hhalf =>
      intro heq
      cases hstring with
      | close => cases heq
      | piece hpiece hmore =>
          rw [List.append_assoc] at heq
          obtain ⟨low, m, more, hm, hlow, hrest⟩ :=
            (not_half_of_pieceText hdigits hpiece heq).2 hhigh
          exact hhalf low m more hm hlow hrest
  | behind hpiece hmeets ih =>
      intro heq
      cases hstring with
      | close => exact hpiece.ne_quote heq
      | piece hpiece' hmore =>
          rw [List.append_assoc] at heq
          obtain ⟨-, hrest⟩ := hpiece.unique hpiece' heq
          exact ih hmore hrest

/-- A list of strings that is well formed so far goes on with the contents of a string. -/
inductive OpensString (cs : List Char) : List Char → Prop
  | first {gap gap' contents : List Char} (hgap : Blanks gap) (hgap' : Blanks gap')
      (hcs : cs = gap ++ '[' :: (gap' ++ '"' :: contents)) : OpensString cs contents
  | next {written text gap gap' contents : List Char}
      (h : OpensString cs (written ++ (gap ++ ',' :: (gap' ++ '"' :: contents))))
      (hwritten : StringText written text) (hgap : Blanks gap) (hgap' : Blanks gap') :
      OpensString cs contents

theorem OpensString.ne_nil {cs contents : List Char} (h : OpensString cs contents) : cs ≠ [] := by
  induction h with
  | first hgap hgap' hcs => simp [hcs]
  | next h hwritten hgap hgap' ih => exact ih

/-- If the whole text is a list, the contents are those of one of its strings. -/
theorem OpensString.exists_string {cs contents : List Char} (h : OpensString cs contents)
    (hlist : ListText cs tiers) :
    ∃ written text more others gap, StringText written text ∧ MoreText more others ∧
      contents = written ++ (more ++ gap) := by
  -- String by string, what is left of the list is what the next string is found in.
  induction h with
  | first hgap hgap' hcs =>
      cases hlist with
      | null hgapNull _ =>
          obtain ⟨hword, -⟩ := gap_unique hgapNull hgap rfl rfl hcs
          exact absurd hword (by decide)
      | @list gapList gapEnd written _ hgapList hgapEnd hitems =>
          obtain ⟨-, hwritten⟩ := gap_unique hgapList hgap rfl rfl hcs
          cases hitems with
          | empty hgapItem =>
              obtain ⟨hclose, -⟩ := gap_unique hgapItem hgap' rfl rfl (by simpa using hwritten)
              exact absurd hclose (by decide)
          | items hgapItem htext hmore =>
              obtain ⟨-, hcontents⟩ :=
                gap_unique hgapItem hgap' rfl rfl (by simpa using hwritten)
              exact ⟨_, _, _, _, gapEnd, htext, hmore, hcontents.symm⟩
  | next h hwritten hgap hgap' ih =>
      obtain ⟨written', text', more, others, gapEnd, hwritten', hmore, heq⟩ := ih
      obtain ⟨-, hrest⟩ := hwritten.unique hwritten' heq
      cases hmore with
      | close hgapClose =>
          obtain ⟨hcomma, -⟩ := gap_unique hgap hgapClose rfl rfl (by simpa using hrest)
          exact absurd hcomma (by decide)
      | item hgapComma hgapItem htext hmore =>
          obtain ⟨-, hitem⟩ := gap_unique hgap hgapComma rfl rfl (by simpa using hrest)
          obtain ⟨-, hcontents⟩ := gap_unique hgap' hgapItem rfl rfl (by simpa using hitem)
          exact ⟨_, _, _, _, gapEnd, htext, hmore, hcontents⟩

/-! ## Annotations -/

theorem ListText.exists_not_blank {cs : List Char} (h : ListText cs tiers) :
    ∃ c ∈ cs, isBlank c = false := by
  cases h with
  | null hgap hgap' => exact ⟨'n', by simp, rfl⟩
  | list hgap hgap' hitems => exact ⟨'[', by simp, rfl⟩

namespace AllowedTiers

theorem ofList_eq_only_iff {others : List String} :
    ofList others = .only tiers ↔ tiers ≠ [] ∧ others = tiers := by
  cases others with
  | nil =>
      simp only [ofList, reduceCtorEq, false_iff, not_and]
      exact fun hne heq => hne heq.symm
  | cons first rest =>
      simp only [ofList, only.injEq]
      exact ⟨fun h => ⟨by simp [← h], h⟩, fun h => h.2⟩

/-- No tiers are listed by no text, and by the texts of null and of the empty list. -/
theorem lists_nil_iff {written : Option String} :
    Lists written [] ↔ written = none ∨ ∃ text, written = some text ∧
      (text = "" ∨ JsonText text .null ∨ JsonText text (.ofStrings [])) := by
  cases written with
  | none => simp [Lists]
  | some text => simp [Lists, listText_iff_jsonText]

theorem lists_iff_of_ne_nil {written : Option String} (h : tiers ≠ []) :
    Lists written tiers ↔ ∃ text, written = some text ∧ JsonText text (.ofStrings tiers) := by
  cases written with
  | none => simp [Lists, h]
  | some text => simp [Lists, listText_iff_jsonText, h]

theorem lists_of_jsonText {text : String} (h : JsonText text (.ofStrings tiers)) :
    Lists (some text) tiers :=
  Or.inr (listText_iff_jsonText.2 (Or.inr h))

/-- An annotation that is not well formed has a text, which is not empty and stands neither for null
nor for a list of strings. -/
theorem not_lists_iff {written : Option String} :
    (∀ tiers, ¬ Lists written tiers) ↔ ∃ text, written = some text ∧ text ≠ "" ∧
      ¬ JsonText text .null ∧ ∀ tiers, ¬ JsonText text (.ofStrings tiers) := by
  constructor
  · intro hnone
    have hnil := mt lists_nil_iff.2 (hnone [])
    cases written with
    | none => exact absurd (Or.inl rfl) hnil
    | some text =>
        refine ⟨text, rfl, fun hempty => hnil ?_, fun hnull => hnil ?_, fun tiers hlist => ?_⟩
        · exact Or.inr ⟨text, rfl, Or.inl hempty⟩
        · exact Or.inr ⟨text, rfl, Or.inr (Or.inl hnull)⟩
        · exact hnone tiers (lists_of_jsonText hlist)
  · rintro ⟨text, rfl, hempty, hnull, hlist⟩ tiers (⟨htext, -⟩ | htext)
    · exact hempty htext
    · rcases listText_iff_jsonText.1 htext with ⟨htext, -⟩ | htext
      · exact hnull htext
      · exact hlist tiers htext

/-- A text whose front reads as a value is well formed only if that is all there is, and the value is
null or a list of strings. -/
theorem of_lists {text : String} (hlists : Lists (some text) tiers) (hgap : Blanks gap)
    (hvalue : ValueText written v) (htext : text.toList = gap ++ (written ++ rest)) :
    Blanks rest ∧ ((tiers = [] ∧ v = .null) ∨ v = .ofStrings tiers) := by
  rcases hlists with ⟨rfl, -⟩ | hlist
  · obtain ⟨c, tail, rfl, -⟩ := hvalue.start
    simp at htext
  · obtain ⟨rest', hread, hblanks⟩ := (listText_iff _ _).1 hlist
    rw [htext] at hread
    obtain ⟨rfl, hform⟩ := value_unique hread hgap hvalue
    exact ⟨hblanks, hform⟩

/-- What annotations are read as: the tiers that a well-formed one lists, and nothing else. -/
structure ReadsAnnotations : Prop where
  any_iff : ∀ written, ofAnnotation written = .ok .any ↔
    written = none ∨ ∃ text, written = some text ∧
      (text = "" ∨ JsonText text .null ∨ JsonText text (.ofStrings []))
  only_iff : ∀ written tiers, ofAnnotation written = .ok (.only tiers) ↔
    tiers ≠ [] ∧ ∃ text, written = some text ∧ JsonText text (.ofStrings tiers)
  error_iff : ∀ written, (∃ fault, ofAnnotation written = .error fault) ↔
    ∃ text, written = some text ∧ text ≠ "" ∧ ¬ JsonText text .null ∧
      ∀ tiers, ¬ JsonText text (.ofStrings tiers)
  blanks : ∀ text, text ≠ "" → Blanks text.toList → ∃ fault, ofAnnotation (some text) = .error fault
  /-- Any other value is an error: a list that holds anything but strings, too. -/
  mistyped : ∀ text v, JsonText text v → v ≠ .null → (∀ tiers, v ≠ .ofStrings tiers) →
    ∃ fault, ofAnnotation (some text) = .error fault
  trailing : ∀ {gap written rest v}, Blanks gap → ValueText written v → ¬ Blanks rest →
    ∃ fault, ofAnnotation (some (String.ofList (gap ++ (written ++ rest)))) = .error fault
  half_pair : ∀ {text contents}, OpensString (String.toList text) contents →
    MeetsHalfPair contents → ∃ fault, ofAnnotation (some text) = .error fault
  /-- A list of strings permits its own strings, or everything if there are none. -/
  permits_iff : ∀ text tiers, JsonText text (.ofStrings tiers) →
    ∃ allowed, ofAnnotation (some text) = .ok allowed ∧
      ∀ tier, allowed.permits tier = true ↔ tiers = [] ∨ tier ∈ tiers
  rendered : ∀ tiers, JsonText (Json.ofStrings tiers).render (.ofStrings tiers)
  /-- Whatever permits a tier is well formed and lists the tier, or none at all. -/
  permitted : ∀ {written allowed tier}, ofAnnotation written = .ok allowed →
    allowed.permits tier = true → written = none ∨ ∃ text, written = some text ∧
      (text = "" ∨ JsonText text .null ∨
        ∃ tiers, JsonText text (.ofStrings tiers) ∧ (tiers = [] ∨ tier ∈ tiers))

/-- Every annotation is read as what it stands for, and if it stands for no list of tiers it permits
none. -/
theorem annotations_fail_closed : ReadsAnnotations where
  any_iff := fun written => (ofAnnotation_eq_ok_iff written []).trans lists_nil_iff
  only_iff := by
    intro written tiers
    constructor
    · intro hread
      obtain ⟨others, hothers⟩ := exists_ofList_of_ofAnnotation hread
      obtain ⟨hne, rfl⟩ := ofList_eq_only_iff.1 hothers.symm
      rw [hothers, ofAnnotation_eq_ok_iff, lists_iff_of_ne_nil hne] at hread
      exact ⟨hne, hread⟩
    · rintro ⟨hne, hlist⟩
      rw [← ofList_eq_only_iff.2 ⟨hne, rfl⟩, ofAnnotation_eq_ok_iff, lists_iff_of_ne_nil hne]
      exact hlist
  error_iff := fun written => (ofAnnotation_isError_iff written).trans not_lists_iff
  blanks := by
    intro text hne hblanks
    refine (ofAnnotation_isError_iff _).2 fun tiers hlists => ?_
    rcases hlists with ⟨hempty, -⟩ | hlist
    · exact hne hempty
    · obtain ⟨c, hc, hnot⟩ := hlist.exists_not_blank
      rw [(blanks_iff _).1 hblanks c hc] at hnot
      cases hnot
  mistyped := by
    rintro text v ⟨gap, written, gap', hgap, hvalue, -, htext⟩ hnull hlist
    refine (ofAnnotation_isError_iff _).2 fun tiers hlists => ?_
    rcases (of_lists hlists hgap hvalue htext).2 with ⟨-, rfl⟩ | rfl
    · exact hnull rfl
    · exact hlist tiers rfl
  trailing := by
    intro gap written rest v hgap hvalue hrest
    refine (ofAnnotation_isError_iff _).2 fun tiers hlists => hrest ?_
    exact (of_lists hlists hgap hvalue String.toList_ofList).1
  half_pair := by
    intro text contents hopens hmeets
    refine (ofAnnotation_isError_iff _).2 fun tiers hlists => ?_
    rcases hlists with ⟨rfl, -⟩ | hlist
    · exact hopens.ne_nil rfl
    · obtain ⟨written, text', more, others, gap, hwritten, -, heq⟩ := hopens.exists_string hlist
      exact hmeets.ne_string hwritten heq
  permits_iff := by
    intro text tiers htext
    refine ⟨ofList tiers, ?_, fun tier => permits_ofList_iff tier tiers⟩
    exact (ofAnnotation_eq_ok_iff _ _).2 (lists_of_jsonText htext)
  rendered := Json.jsonText_render_ofStrings
  permitted := by
    intro written allowed tier hread hpermits
    obtain ⟨tiers, rfl⟩ := exists_ofList_of_ofAnnotation hread
    rw [ofAnnotation_eq_ok_iff] at hread
    rcases (permits_ofList_iff tier tiers).1 hpermits with rfl | htier
    · rcases lists_nil_iff.1 hread with hnone | ⟨text, htext, hempty | hnull | hlist⟩
      · exact Or.inl hnone
      · exact Or.inr ⟨text, htext, Or.inl hempty⟩
      · exact Or.inr ⟨text, htext, Or.inr (Or.inl hnull)⟩
      · exact Or.inr ⟨text, htext, Or.inr (Or.inr ⟨[], hlist, Or.inl rfl⟩)⟩
    · obtain ⟨text, htext, hlist⟩ := (lists_iff_of_ne_nil (List.ne_nil_of_mem htier)).1 hread
      exact Or.inr ⟨text, htext, Or.inr (Or.inr ⟨tiers, hlist, Or.inr htier⟩)⟩

end AllowedTiers

end ModelGate.Access

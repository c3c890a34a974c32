import ModelGate.Json.Render
import ModelGate.Proofs.Access.AllowlistText

/-!
# The grammar of JSON

JSON texts as a relation between what is written and the value that it stands for, whoever reads it.
A number stands for itself as it is written, and a string for its text, so that a string with half a
surrogate pair is no value.  Blanks may stand around every lexeme.

The first character of a value tells of which kind it is (`ValueText.start`), and a list of strings is
a text of the grammar once it is rendered (`jsonText_render_ofStrings`).
-/

namespace ModelGate.Json

open Access (Blanks)

/-! ## Numbers -/

/-- One decimal digit or more. -/
def IsDigits (cs : List Char) : Prop :=
  cs ≠ [] ∧ ∀ c ∈ cs, c.isDigit = true

/-- A number: an optional sign, digits without leading zeros, and perhaps a fraction and an
exponent. -/
inductive NumberText : List Char → Prop
  | number {sign whole fraction exponent : List Char} (hsign : sign = [] ∨ sign = ['-'])
      (hwhole : IsDigits whole) (hzero : whole.head? = some '0' → whole = ['0'])
      (hfraction : fraction = [] ∨ ∃ digits, IsDigits digits ∧ fraction = '.' :: digits)
      (hexponent : exponent = [] ∨ ∃ e sign digits, (e = 'e' ∨ e = 'E') ∧
        (sign = [] ∨ sign = ['+'] ∨ sign = ['-']) ∧ IsDigits digits ∧
        exponent = e :: (sign ++ digits)) :
      NumberText (sign ++ (whole ++ (fraction ++ exponent)))

/-! ## Values -/

section

variable {α : Type}

/-- What follows an item of a list or an object, up to the closing bracket. -/
inductive MoreItems (item : List Char → α → Prop) (close : Char) : List Char → List α → Prop
  | close {gap : List Char} (hgap : Blanks gap) : MoreItems item close (gap ++ [close]) []
  | next {gap gap' written more : List Char} {a : α} {rest : List α} (hgap : Blanks gap)
      (hgap' : Blanks gap') (hitem : item written a) (hmore : MoreItems item close more rest) :
      MoreItems item close (gap ++ ',' :: (gap' ++ (written ++ more))) (a :: rest)

/-- A list or an object behind its opening bracket, up to its closing one. -/
inductive Items (item : List Char → α → Prop) (close : Char) : List Char → List α → Prop
  | empty {gap : List Char} (hgap : Blanks gap) : Items item close (gap ++ [close]) []
  | items {gap written more : List Char} {a : α} {rest : List α} (hgap : Blanks gap)
      (hitem : item written a) (hmore : MoreItems item close more rest) :
      Items item close (gap ++ (written ++ more)) (a :: rest)

end

/-- A member of an object: its name and its value. -/
inductive MemberText (value : List Char → Json → Prop) : List Char → String × Json → Prop
  | member {name gap gap' written text : List Char} {v : Json} (hname : StringText name text)
      (hgap : Blanks gap) (hgap' : Blanks gap') (hvalue : value written v) :
      MemberText value ('"' :: (name ++ (gap ++ ':' :: (gap' ++ written)))) (String.ofList text, v)

/-- A value without blanks around it. -/
inductive ValueText : List Char → Json → Prop
  | null : ValueText ['n', 'u', 'l', 'l'] .null
  | true : ValueText ['t', 'r', 'u', 'e'] (.bool true)
  | false : ValueText ['f', 'a', 'l', 's', 'e'] (.bool false)
  | number {cs : List Char} (h : NumberText cs) : ValueText cs (.decimal (String.ofList cs))
  | string {written text : List Char} (h : StringText written text) :
      ValueText ('"' :: written) (.str (String.ofList text))
  | list {written : List Char} {items : List Json} (h : Items ValueText ']' written items) :
      ValueText ('[' :: written) (.arr items)
  | object {written : List Char} {members : List (String × Json)}
      (h : Items (MemberText ValueText) '\x7d' written members) :
      ValueText ('\x7b' :: written) (.obj members)

/-- A whole text that is a value with blanks around it. -/
def JsonText (text : String) (v : Json) : Prop :=
  ∃ gap written gap', Blanks gap ∧ ValueText written v ∧ Blanks gap' ∧
    text.toList = gap ++ (written ++ gap')

/-! ## The kind of a value -/

/-- What the first character of a value tells about it. -/
inductive ValueStart : Char → List Char → Json → Prop
  | null : ValueStart 'n' ['u', 'l', 'l'] .null
  | string {rest text : List Char} (h : StringText rest text) :
      ValueStart '"' rest (.str (String.ofList text))
  | list {rest : List Char} {items : List Json} (h : Items ValueText ']' rest items) :
      ValueStart '[' rest (.arr items)
  | other {c : Char} {rest : List Char} {v : Json} (hblank : isBlank c = Bool.false)
      (hother : c ∉ ['n', '"', '[', ']']) : ValueStart c rest v

theorem ValueStart.not_blank {c : Char} {rest : List Char} {v : Json} (h : ValueStart c rest v) :
    isBlank c = Bool.false := by
  cases h with
  | null => rfl
  | string h => rfl
  | list h => rfl
  | other hblank hother => exact hblank

theorem ValueStart.not_close {rest : List Char} {v : Json} (h : ValueStart ']' rest v) : False := by
  cases h with
  | other hblank hother => exact hother (by decide)

theorem NumberText.start {cs : List Char} (h : NumberText cs) :
    ∃ c rest, cs = c :: rest ∧ (c = '-' ∨ c.isDigit = Bool.true) := by
  cases h with
  | @number sign whole fraction exponent hsign hwhole hzero hfraction hexponent =>
      rcases hsign with rfl | rfl
      · cases whole with
        | nil => exact absurd rfl hwhole.1
        | cons d whole => exact ⟨d, _, rfl, Or.inr (hwhole.2 d List.mem_cons_self)⟩
      · exact ⟨'-', _, rfl, Or.inl rfl⟩

/-- The signs and digits that a number starts with start nothing else. -/
theorem other_of_number {c : Char} (h : c = '-' ∨ c.isDigit = Bool.true) :
    isBlank c = Bool.false ∧ c ∉ ['n', '"', '[', ']'] := by
  have hne {d : Char} (hd : (d == '-' || d.isDigit) = Bool.false) : c ≠ d := by
    rintro rfl
    rcases h with rfl | hdigit
    · cases hd
    · rw [hdigit, Bool.or_true] at hd
      cases hd
  constructor
  · simp [isBlank, @hne ' ' rfl, @hne '\t' rfl, @hne '\n' rfl, @hne '\r' rfl]
  · simp [@hne 'n' rfl, @hne '"' rfl, @hne '[' rfl, @hne ']' rfl]

theorem ValueText.start {cs : List Char} {v : Json} (h : ValueText cs v) :
    ∃ c rest, cs = c :: rest ∧ ValueStart c rest v := by
  cases h with
  | null => exact ⟨'n', _, rfl, .null⟩
  | true => exact ⟨'t', _, rfl, .other rfl (by decide)⟩
  | false => exact ⟨'f', _, rfl, .other rfl (by decide)⟩
  | number h =>
      obtain ⟨c, rest, rfl, hc⟩ := h.start
      obtain ⟨hblank, hother⟩ := other_of_number hc
      exact ⟨c, rest, rfl, .other hblank hother⟩
  | string h => exact ⟨'"', _, rfl, .string h⟩
  | list h => exact ⟨'[', _, rfl, .list h⟩
  | object h => exact ⟨'\x7b', _, rfl, .other rfl (by decide)⟩

/-! ## Writing -/

theorem hexDigit_mem_hexDigits {n : Nat} (h : n < 16) : (hexDigit n, n) ∈ hexDigits := by
  interval_cases n <;> decide

/-- What a character is written as in a string stands for the character. -/
theorem pieceText_escapeChar (c : Char) : PieceText (escapeChar c) c := by
  unfold escapeChar
  split
  case h_8 hquote hslash _ _ _ _ _ =>
    split
    · next hcontrol =>
      have hhigh : (hexDigit (c.toNat / 16), c.toNat / 16) ∈ hexDigits :=
        hexDigit_mem_hexDigits (by omega)
      have hlow : (hexDigit (c.toNat % 16), c.toNat % 16) ∈ hexDigits :=
        hexDigit_mem_hexDigits (by omega)
      have hzero : ('0', 0) ∈ hexDigits := by decide
      have hfour := HexFour.digits hzero hzero hhigh hlow
      have hcode : ((0 * 16 + 0) * 16 + c.toNat / 16) * 16 + c.toNat % 16 = c.toNat := by omega
      have hpiece := PieceText.code hfour (by unfold IsHighSurrogate; omega)
        (by unfold IsLowSurrogate; omega)
      rw [hcode, Char.ofNat_toNat] at hpiece
      exact hpiece
    · next hplain => exact .plain hquote hslash (Nat.not_lt.1 hplain)
  all_goals exact .short (by decide)

theorem stringText_flatMap_escapeChar (text : List Char) :
    StringText (text.flatMap escapeChar ++ ['"']) text := by
  induction text with
  | nil => exact .close
  | cons c text ih =>
      rw [List.flatMap_cons, List.append_assoc]
      exact .piece (pieceText_escapeChar c) ih

theorem valueText_quoteChars (text : String) :
    ValueText (quoteChars text.toList) (.str text) := by
  have h := ValueText.string (stringText_flatMap_escapeChar text.toList)
  rw [String.ofList_toList] at h
  exact h

theorem renderItems_eq_map (items : List Json) : renderItems items = items.map renderChars := by
  induction items with
  | nil => rfl
  | cons item rest ih => rw [renderItems, ih, List.map_cons]

theorem renderItems_map_str (texts : List String) :
    renderItems (texts.map .str) = texts.map fun text => quoteChars text.toList := by
  rw [renderItems_eq_map, List.map_map]
  rfl

/-- Behind the first item of a rendered list, the other ones follow it. -/
theorem exists_moreItems (first : List Char) (texts : List String) :
    ∃ more, MoreItems ValueText ']' more (texts.map .str) ∧
      commaSeparated (first :: texts.map fun text => quoteChars text.toList) ++ [']'] =
        first ++ more := by
  induction texts generalizing first with
  | nil => exact ⟨[']'], @MoreItems.close Json ValueText ']' [] nofun, rfl⟩
  | cons text rest ih =>
      obtain ⟨more, hmore, heq⟩ := ih (quoteChars text.toList)
      refine ⟨',' :: (quoteChars text.toList ++ more),
        @MoreItems.next Json ValueText ']' [] [] _ _ _ _ nofun nofun (valueText_quoteChars text)
          hmore, ?_⟩
      change (first ++ ',' :: commaSeparated _) ++ [']'] = _
      rw [List.append_assoc, List.cons_append, List.map_cons, heq]

/-- A list of strings can be read as it is rendered. -/
theorem jsonText_render_ofStrings (texts : List String) :
    JsonText (ofStrings texts).render (ofStrings texts) := by
  have hitems : Items ValueText ']'
      (commaSeparated (texts.map fun text => quoteChars text.toList) ++ [']'])
      (texts.map .str) := by
    cases texts with
    | nil => exact @Items.empty Json ValueText ']' [] nofun
    | cons text rest =>
        obtain ⟨more, hmore, heq⟩ := exists_moreItems (quoteChars text.toList) rest
        rw [List.map_cons, heq]
        exact @Items.items Json ValueText ']' [] _ _ _ _ nofun (valueText_quoteChars text) hmore
  refine ⟨[], _, [], nofun, .list hitems, nofun, ?_⟩
  rw [List.nil_append, List.append_nil, render, String.toList_ofList, ofStrings, renderChars,
    renderItems_map_str]

end ModelGate.Json

import ModelGate.Json.Written
import ModelGate.Proofs.Json.Grammar
import ModelGate.Proofs.Text.Decimal

/-!
# Values that their texts restore

A value is restored from its text (`parse?_render`) if its whole numbers are those of 64-bit words
and its objects have no name twice.  Two such values with the same text are the same value.

The text of a value is followed through the reader as it stands in a larger one: whatever is open in
front of it receives the value, and the reader goes on behind it.  Only a number has to know what
comes next, because the reader takes as many characters as could belong to it.
-/

namespace ModelGate.Json

/-- A value whose whole numbers are 64-bit words, and whose objects have no name twice.  It has no
decimals, because those hold any text. -/
inductive Restorable : Json → Prop
  | null : Restorable .null
  | bool (value : Bool) : Restorable (.bool value)
  | int {n : Int} (hlow : -2 ^ 63 ≤ n) (hhigh : n < 2 ^ 64) : Restorable (.int n)
  | str (text : String) : Restorable (.str text)
  | arr {items : List Json} (h : ∀ item ∈ items, Restorable item) : Restorable (.arr items)
  | obj {members : List (String × Json)} (hnodup : (members.map (·.1)).Nodup)
      (h : ∀ m ∈ members, Restorable m.2) : Restorable (.obj members)

/-! ## Reading on -/

/-- How far a text is read that goes on from some point. -/
def Progress.readOn (p : Progress) (cs : List Char) : Option Progress :=
  (tokens? (cs.map .char)).bind fun tokens => tokens.foldlM Progress.next? p

theorem tokensFrom?_of_token {c : Char} {glyphs rest : List Glyph} {token : Token}
    (done : List Token) (hblank : isBlank c = false)
    (h : readToken? c glyphs = some (token, rest)) :
    tokensFrom? done (.char c :: glyphs) = tokensFrom? (token :: done) rest := by
  rw [tokensFrom?, hblank, if_neg Bool.false_ne_true]
  split
  · next h' =>
    cases h.symm.trans h'
    rfl
  · next h' => cases h.symm.trans h'

theorem tokensFrom?_append (done before : List Token) (glyphs : List Glyph) :
    tokensFrom? (done ++ before) glyphs = (tokensFrom? done glyphs).map (before.reverse ++ ·) := by
  fun_induction tokensFrom? done glyphs with
  | case1 done => simp [tokensFrom?]
  | case2 done b rest => simp [tokensFrom?]
  | case3 done c rest hblank ih => rw [tokensFrom?, if_pos hblank, ih]
  | case4 done c rest hblank token rest' h ih =>
      rw [tokensFrom?_of_token _ (Bool.eq_false_iff.2 hblank) h]
      exact ih
  | case5 done c rest hblank h =>
      rw [tokensFrom?, if_neg hblank]
      split
      · next h' => cases h.symm.trans h'
      · rfl

namespace Progress

variable {c : Char} {cs rest : List Char} {token : Token}

theorem readOn_nil (p : Progress) : p.readOn [] = some p := by
  simp [readOn, tokens?, tokensFrom?]

/-- The reader takes one token and goes on behind it. -/
theorem readOn_cons (p : Progress) (hblank : isBlank c = false)
    (h : readToken? c (cs.map .char) = some (token, rest.map .char)) :
    p.readOn (c :: cs) = (p.next? token).bind (·.readOn rest) := by
  unfold readOn tokens?
  rw [List.map_cons, tokensFrom?_of_token [] hblank h]
  have happend := tokensFrom?_append [] [token] (rest.map .char)
  rw [List.nil_append] at happend
  rw [happend]
  cases tokensFrom? [] (rest.map .char) with
  | none => simp
  | some tokens => simp [List.foldlM_cons]

end Progress

theorem ofGlyphs?_of_readOn {cs : List Char} {w : Written}
    (h : (Progress.within [] .value).readOn cs = some (.complete w)) :
    Written.ofGlyphs? (cs.map .char) = some w := by
  obtain ⟨tokens, htokens, hfold⟩ := Option.bind_eq_some_iff.1 h
  unfold Written.ofGlyphs? Written.ofTokens?
  rw [htokens, Option.bind_some, hfold]

/-! ## Strings -/

/-- The reader of written strings passes over one written character. -/
theorem readRaw_piece {written : List Char} {c : Char} (h : PieceText written c)
    (done rest : List Glyph) :
    readRaw done .plain (written.map .char ++ rest) =
      readRaw ((written.map .char).reverse ++ done) .plain rest := by
  have hfour {digits : List Char} {n : Nat} (h : HexFour digits n) (done rest : List Glyph) :
      readRaw done (.numbered 3) (digits.map .char ++ rest) =
        readRaw ((digits.map .char).reverse ++ done) .plain rest := by
    cases h with
    | digits ha hb hc hd =>
        rw [← hexValue?_eq_some_iff] at ha hb hc hd
        simp [readRaw, RawPlace.next?, ha, hb, hc, hd]
  cases h with
  | plain hquote hslash hcontrol =>
      simp [readRaw, RawPlace.next?, hquote, hslash, Nat.not_lt.2 hcontrol]
  | @short e d h =>
      have he : e ≠ 'u' := by
        rintro rfl
        exact not_mem_shortEscapes_u _ h
      simp [readRaw, RawPlace.next?, he, (shortEscape?_eq_some_iff _ _).2 h]
  | code h hhigh hlow =>
      simp [readRaw, RawPlace.next?, hfour h]
  | pair hn hm hhigh hlow =>
      simp [readRaw, RawPlace.next?, hfour hn, hfour hm]

/-- What stands between the quotes of a string that was written. -/
def rawOf (text : String) : List Glyph :=
  (text.toList.flatMap escapeChar).map .char

theorem readRaw_escapeChars (text : List Char) (done rest : List Glyph) :
    readRaw done .plain ((text.flatMap escapeChar).map .char ++ .char '"' :: rest) =
      some (done.reverse ++ (text.flatMap escapeChar).map .char, rest) := by
  induction text generalizing done with
  | nil => simp [readRaw]
  | cons c text ih =>
      rw [List.flatMap_cons, List.map_append, List.append_assoc,
        readRaw_piece (pieceText_escapeChar c), ih]
      simp

theorem readToken?_string (text : String) (rest : List Char) :
    readToken? '"' ((text.toList.flatMap escapeChar ++ '"' :: rest).map .char) =
      some (.str (rawOf text), rest.map .char) := by
  change (readRaw [] .plain _).map _ = _
  rw [List.map_append, List.map_cons, readRaw_escapeChars]
  rfl

theorem chars?_map_char (cs : List Char) : Glyph.chars? (cs.map .char) = some cs := by
  unfold Glyph.chars?
  induction cs with
  | nil => rfl
  | cons c cs ih =>
      rw [List.map_cons, List.mapM_cons, ih]
      rfl

theorem decode?_rawOf (text : String) : Written.decode? (rawOf text) = some text := by
  have hread : readString (text.toList.flatMap escapeChar ++ ['"']) = .ok (text.toList, []) :=
    (readString_eq_ok_iff _ _ _).2 ⟨_, stringText_flatMap_escapeChar _, by simp⟩
  unfold Written.decode? rawOf
  rw [chars?_map_char]
  simp only [bind, Option.bind_some, hread, String.ofList_toList]

/-! ## Numbers -/

/-- A text in front of which a number ends. -/
def EndsNumber (rest : List Char) : Prop :=
  ∀ c ∈ rest.head?, isNumberGlyph (.char c) = false

/-- The numeral of a whole number as it is printed. -/
def numeralOf (n : Int) : Numeral :=
  ⟨decide (n < 0), Nat.toDigits 10 n.natAbs, [], none⟩

theorem toList_toString_int (n : Int) :
    (toString n).toList = (if n < 0 then ['-'] else []) ++ Nat.toDigits 10 n.natAbs := by
  rw [Int.toString_eq_repr, Int.repr_eq_if]
  by_cases h : n < 0
  · have habs : (-n).toNat = n.natAbs := by omega
    rw [if_neg (by omega), if_pos h, String.toList_append, habs]
    exact congrArg _ (toList_toString_nat n.natAbs)
  · have habs : n.toNat = n.natAbs := by omega
    rw [if_pos (by omega), if_neg h, habs]
    exact toList_toString_nat n.natAbs

theorem exists_cons_of_toString_int (n : Int) :
    ∃ c cs, (toString n).toList = c :: cs ∧ (c = '-' ∨ c.isDigit = true) := by
  rw [toList_toString_int]
  by_cases h : n < 0
  · rw [if_pos h]
    exact ⟨_, _, rfl, Or.inl rfl⟩
  · rw [if_neg h, List.nil_append]
    obtain ⟨c, cs, hdigits⟩ := List.exists_cons_of_ne_nil (Nat.toDigits_ne_nil (n := n.natAbs))
    exact ⟨c, cs, hdigits, Or.inr (isDigit_of_mem_toDigits (by rw [hdigits]; simp))⟩

theorem readWhole_toDigits (n : Nat) :
    readWhole (Nat.toDigits 10 n) = .ok (Nat.toDigits 10 n, []) := by
  have hall : ∀ c ∈ Nat.toDigits 10 n, c.isDigit = true := fun c => isDigit_of_mem_toDigits
  have hread : readDigits (Nat.toDigits 10 n) = .ok (Nat.toDigits 10 n, []) := by
    unfold readDigits
    rw [List.takeWhile_eq_self_iff.2 hall, List.dropWhile_eq_nil_iff.2 hall]
    cases h : Nat.toDigits 10 n with
    | nil => exact absurd h Nat.toDigits_ne_nil
    | cons c cs => rfl
  unfold readWhole
  rw [hread]
  split
  · next c cs rest h =>
    -- Nothing follows a leading zero, because only zero has one.
    have hdigits := (Prod.mk.inj (Except.ok.inj h)).1
    have hzero : n = 0 := eq_zero_of_head?_toDigits (by rw [hdigits]; rfl)
    subst hzero
    cases hdigits
  · rfl

theorem readNumeral_toString (n : Int) :
    readNumeral (toString n).toList = .ok (numeralOf n, []) := by
  have hwhole := readWhole_toDigits n.natAbs
  have hsign : ∀ rest, Nat.toDigits 10 n.natAbs ≠ '-' :: rest := by
    intro rest h
    cases @isDigit_of_mem_toDigits n.natAbs '-' (by simp [h])
  rw [toList_toString_int]
  unfold readNumeral numeralOf
  by_cases h : n < 0
  · rw [if_pos h]
    simp only [List.cons_append, List.nil_append, hwhole, h, decide_true]
    rfl
  · rw [if_neg h]
    -- The digits are no sign, so the reader starts with them.
    simp only [List.nil_append, hwhole, h, decide_false]
    rfl

theorem isNumberGlyph_char (c : Char) :
    isNumberGlyph (.char c) = (c.isDigit || decide (c ∈ ['+', '-', '.', 'e', 'E'])) := by
  unfold isNumberGlyph
  exact congrArg (c.isDigit || ·) String.contains_char_eq

theorem isNumberGlyph_of_mem_toString {n : Int} {c : Char} (h : c ∈ (toString n).toList) :
    isNumberGlyph (.char c) = true := by
  rw [toList_toString_int] at h
  rw [isNumberGlyph_char]
  rcases List.mem_append.1 h with hsign | hdigit
  · split_ifs at hsign
    · cases List.mem_singleton.1 hsign
      rfl
    · cases hsign
  · rw [isDigit_of_mem_toDigits hdigit, Bool.true_or]

/-- The reader takes a number whole, if what follows cannot continue it. -/
theorem span_of_endsNumber {cs rest : List Char} (hall : ∀ c ∈ cs, isNumberGlyph (.char c) = true)
    (hrest : EndsNumber rest) :
    ((cs ++ rest).map Glyph.char).takeWhile isNumberGlyph = cs.map .char ∧
      ((cs ++ rest).map Glyph.char).dropWhile isNumberGlyph = rest.map .char := by
  have hglyphs : ∀ g ∈ cs.map Glyph.char, isNumberGlyph g = true := List.forall_mem_map.2 hall
  rw [List.map_append, List.takeWhile_append_of_pos hglyphs, List.dropWhile_append_of_pos hglyphs]
  cases rest with
  | nil => simp
  | cons c rest =>
      have hc : isNumberGlyph (.char c) = false := hrest c rfl
      simp [hc]

theorem readToken?_int {n : Int} {c : Char} {cs rest : List Char}
    (htext : (toString n).toList = c :: cs) (hrest : EndsNumber rest) :
    readToken? c ((cs ++ rest).map .char) = some (.number (numeralOf n), rest.map .char) := by
  have hall : ∀ d ∈ c :: cs, isNumberGlyph (.char d) = true := by
    intro d hd
    rw [← htext] at hd
    exact isNumberGlyph_of_mem_toString hd
  obtain ⟨hc, hcs⟩ := List.forall_mem_cons.1 hall
  obtain ⟨hrun, hbehind⟩ := span_of_endsNumber hcs hrest
  have hnumeral : numeralOf? (.char c :: cs.map .char) = some (numeralOf n) := by
    unfold numeralOf?
    rw [← List.map_cons, ← htext, chars?_map_char]
    simp only [bind, Option.bind_some, readNumeral_toString]
  rw [isNumberGlyph_char] at hc
  unfold readToken?
  split
  case h_11 =>
    rw [hrun, hbehind, hnumeral]
    rfl
  -- No other token starts as a number does.
  all_goals exact absurd hc (by decide)

theorem ofNumeral_numeralOf {n : Int} (hlow : -2 ^ 63 ≤ n) (hhigh : n < 2 ^ 64) :
    ofNumeral (numeralOf n) = .int n := by
  unfold ofNumeral numeralOf
  simp only [decimalValue_toDigits]
  by_cases h : n < 0
  · have hbound : 0 < n.natAbs ∧ n.natAbs ≤ 1 <<< 63 := by omega
    have hvalue : -(n.natAbs : Int) = n := by omega
    simp only [h, decide_true, if_true, hbound, and_self, hvalue]
  · have hbound : n.natAbs < UInt64.size := by
      have hsize : UInt64.size = 2 ^ 64 := rfl
      omega
    have hvalue : (n.natAbs : Int) = n := by omega
    simp only [h, decide_false, Bool.false_eq_true, if_false, hbound, if_true, hvalue]

/-! ## Lists and objects -/

/-- What lists and objects have in common: they hold their items while they are open, and let the
value go that they are when they close. -/
structure Bracket (α : Type) where
  frame : List α → Frame
  /-- What may come behind the opening bracket. -/
  first : Expected
  /-- What may come behind a comma. -/
  next : Expected
  closing : Char
  token : Token
  whole : List α → Written
  not_blank : isBlank closing = false
  not_number : isNumberGlyph (.char closing) = false
  readToken?_closing : ∀ rest, readToken? closing rest = some (token, rest)
  next?_comma : ∀ done frames, (Progress.within (frame done :: frames) .commaOrClose).next? .comma =
    some (.within (frame done :: frames) next)
  next?_empty : ∀ frames, (Progress.within (frame [] :: frames) first).next? token =
    Progress.deliver (whole []) frames
  next?_closing : ∀ done frames,
    (Progress.within (frame done :: frames) .commaOrClose).next? token =
      Progress.deliver (whole done.reverse) frames

def Bracket.list : Bracket Written where
  frame := .list
  first := .itemOrClose
  next := .value
  closing := ']'
  token := .closeList
  whole := .arr
  not_blank := rfl
  not_number := by rw [isNumberGlyph_char]; rfl
  readToken?_closing _ := rfl
  next?_comma _ _ := rfl
  next?_empty _ := rfl
  next?_closing _ _ := rfl

def Bracket.object : Bracket (List Glyph × Written) where
  frame := .object
  first := .nameOrClose
  next := .name
  closing := '\x7d'
  token := .closeObject
  whole := .obj
  not_blank := rfl
  not_number := by rw [isNumberGlyph_char]; rfl
  readToken?_closing _ := rfl
  next?_comma _ _ := rfl
  next?_empty _ := rfl
  next?_closing _ _ := rfl

theorem endsNumber_cons {c : Char} (rest : List Char) (h : isNumberGlyph (.char c) = false) :
    EndsNumber (c :: rest) := by
  rintro d hd
  cases hd
  exact h

theorem commaSeparated_cons (part : List Char) (parts : List (List Char)) :
    commaSeparated (part :: parts) = part ++ parts.flatMap (',' :: ·) := by
  induction parts generalizing part with
  | nil => simp [commaSeparated]
  | cons other rest ih =>
      rw [List.flatMap_cons, List.cons_append, ← ih other]
      rfl

namespace Bracket

variable {α β : Type} {b : Bracket α} {text : β → List Char} {item : β → α} {xs : List β}

/-- The text puts an item into what is open, and the reader goes on behind it. -/
def Adds (b : Bracket α) (cs : List Char) (a : α) : Prop :=
  ∀ done frames expected rest, expected = b.first ∨ expected = b.next → EndsNumber rest →
    (Progress.within (b.frame done :: frames) expected).readOn (cs ++ rest) =
      (Progress.within (b.frame (a :: done) :: frames) .commaOrClose).readOn rest

theorem endsNumber_flatMap_comma (parts : List (List Char)) {rest : List Char}
    (hrest : EndsNumber rest) : EndsNumber (parts.flatMap (',' :: ·) ++ rest) := by
  cases parts with
  | nil => exact hrest
  | cons part parts => exact endsNumber_cons _ (by rw [isNumberGlyph_char]; rfl)

/-- Items behind commas are added one by one. -/
theorem readOn_flatMap_comma (h : ∀ x ∈ xs, b.Adds (text x) (item x)) (done : List α)
    (frames : List Frame) {rest : List Char} (hrest : EndsNumber rest) :
    (Progress.within (b.frame done :: frames) .commaOrClose).readOn
        ((xs.map text).flatMap (',' :: ·) ++ rest) =
      (Progress.within (b.frame ((xs.map item).reverse ++ done) :: frames) .commaOrClose).readOn
        rest := by
  induction xs generalizing done with
  | nil => rfl
  | cons x xs ih =>
      obtain ⟨hx, hxs⟩ := List.forall_mem_cons.1 h
      rw [List.map_cons, List.flatMap_cons, List.append_assoc, List.cons_append,
        Progress.readOn_cons _ rfl rfl, b.next?_comma, Option.bind_some,
        hx _ _ _ _ (.inr rfl) (endsNumber_flatMap_comma _ hrest), ih hxs]
      simp

/-- What stands between two brackets is delivered as a whole. -/
theorem readOn_commaSeparated (h : ∀ x ∈ xs, b.Adds (text x) (item x)) (frames : List Frame)
    (rest : List Char) :
    (Progress.within (b.frame [] :: frames) b.first).readOn
        (commaSeparated (xs.map text) ++ b.closing :: rest) =
      (Progress.deliver (b.whole (xs.map item)) frames).bind (·.readOn rest) := by
  cases xs with
  | nil =>
      rw [List.map_nil, commaSeparated, List.nil_append,
        Progress.readOn_cons _ b.not_blank (b.readToken?_closing _), b.next?_empty]
      rfl
  | cons x xs =>
      obtain ⟨hx, hxs⟩ := List.forall_mem_cons.1 h
      have hclose : EndsNumber (b.closing :: rest) := endsNumber_cons _ b.not_number
      rw [List.map_cons, commaSeparated_cons, List.append_assoc,
        hx _ _ _ _ (.inl rfl) (endsNumber_flatMap_comma _ hclose),
        readOn_flatMap_comma hxs _ _ hclose,
        Progress.readOn_cons _ b.not_blank (b.readToken?_closing _), b.next?_closing]
      simp

end Bracket

/-! ## Values -/

/-- Where a value may stand, the text is read as the value, and the reader goes on behind it. -/
structure ReadsAs (cs : List Char) (w : Written) (v : Json) : Prop where
  delivered : ∀ frames expected rest, expected = .value ∨ expected = .itemOrClose →
    EndsNumber rest →
    (Progress.within frames expected).readOn (cs ++ rest) =
      (Progress.deliver w frames).bind (·.readOn rest)
  value : ofWritten? w = some v

/-- Whatever does not close a list counts as a value. -/
theorem next?_eq_takeValue {frames : List Frame} {expected : Expected} {token : Token}
    (hexpected : expected = .value ∨ expected = .itemOrClose) (h : token ≠ .closeList) :
    (Progress.within frames expected).next? token = Progress.takeValue frames token := by
  rcases hexpected with rfl | rfl
  · rfl
  · cases token with
    | closeList => exact absurd rfl h
    | _ => rfl

theorem ReadsAs.of_token {c : Char} {cs : List Char} {w : Written} {v : Json} (token : Token)
    (hblank : isBlank c = false) (hread : ∀ rest, EndsNumber rest →
      readToken? c ((cs ++ rest).map .char) = some (token, rest.map .char))
    (htoken : ∀ frames, Progress.takeValue frames token = Progress.deliver w frames)
    (hclose : token ≠ .closeList) (hvalue : ofWritten? w = some v) : ReadsAs (c :: cs) w v := by
  refine ⟨fun frames expected rest hexpected hrest => ?_, hvalue⟩
  rw [List.cons_append, Progress.readOn_cons _ hblank (hread rest hrest),
    next?_eq_takeValue hexpected hclose, htoken]

theorem readsAs_null : ReadsAs (renderChars .null) .null .null :=
  .of_token .null rfl (fun _ _ => rfl) (fun _ => rfl) (by simp) rfl

theorem readsAs_bool (value : Bool) :
    ReadsAs (renderChars (.bool value)) (.bool value) (.bool value) := by
  cases value with
  | false => exact .of_token (.bool false) rfl (fun _ _ => rfl) (fun _ => rfl) (by simp) rfl
  | true => exact .of_token (.bool true) rfl (fun _ _ => rfl) (fun _ => rfl) (by simp) rfl

theorem readsAs_int {n : Int} (hlow : -2 ^ 63 ≤ n) (hhigh : n < 2 ^ 64) :
    ReadsAs (renderChars (.int n)) (.number (numeralOf n)) (.int n) := by
  obtain ⟨c, cs, htext, hstart⟩ := exists_cons_of_toString_int n
  rw [renderChars, htext]
  refine .of_token (.number (numeralOf n)) (other_of_number hstart).1
    (fun rest hrest => readToken?_int htext hrest) (fun _ => rfl) (by simp) ?_
  rw [ofWritten?, ofNumeral_numeralOf hlow hhigh]

theorem readsAs_str (text : String) :
    ReadsAs (renderChars (.str text)) (.str (rawOf text)) (.str text) := by
  refine .of_token (.str (rawOf text)) rfl (fun rest _ => ?_) (fun _ => rfl) (by simp) ?_
  · rw [List.append_assoc]
    exact readToken?_string text rest
  · rw [ofWritten?, decode?_rawOf]
    rfl

theorem ofWrittenItems?_map {written : Json → Written} {items : List Json}
    (h : ∀ item ∈ items, ofWritten? (written item) = some item) :
    ofWrittenItems? (items.map written) = some items := by
  induction items with
  | nil => rfl
  | cons item rest ih =>
      obtain ⟨hitem, hrest⟩ := List.forall_mem_cons.1 h
      rw [List.map_cons, ofWrittenItems?, hitem, ih hrest]
      rfl

theorem readsAs_arr {written : Json → Written} {items : List Json}
    (h : ∀ item ∈ items, ReadsAs item.renderChars (written item) item) :
    ReadsAs (renderChars (.arr items)) (.arr (items.map written)) (.arr items) := by
  constructor
  · intro frames expected rest hexpected hrest
    have hopen : (Progress.within frames expected).next? .openList =
        some (.within (.list [] :: frames) .itemOrClose) :=
      next?_eq_takeValue hexpected (by simp)
    have hadds : ∀ item ∈ items, Bracket.list.Adds item.renderChars (written item) := by
      intro item hitem done frames expected rest hexpected hrest
      exact (h item hitem).delivered _ _ _ hexpected.symm hrest
    rw [renderChars, List.cons_append, List.append_assoc, Progress.readOn_cons _ rfl rfl, hopen,
      Option.bind_some, renderItems_eq_map]
    exact Bracket.readOn_commaSeparated hadds frames rest
  · rw [ofWritten?, ofWrittenItems?_map fun item hitem => (h item hitem).value]
    rfl

theorem renderMembers_eq_map (members : List (String × Json)) :
    renderMembers members =
      members.map fun m => quoteChars m.1.toList ++ ':' :: renderChars m.2 := by
  induction members with
  | nil => rfl
  | cons m rest ih => rw [renderMembers, ih, List.map_cons]

theorem ofWrittenMembers?_map {written : String × Json → Written} {members : List (String × Json)}
    (h : ∀ m ∈ members, ofWritten? (written m) = some m.2) :
    ofWrittenMembers? (members.map fun m => (rawOf m.1, written m)) = some members := by
  induction members with
  | nil => rfl
  | cons m rest ih =>
      obtain ⟨hm, hrest⟩ := List.forall_mem_cons.1 h
      rw [List.map_cons, ofWrittenMembers?, decode?_rawOf, hm, ih hrest]
      rfl

theorem setMember_of_fresh {name : String} {value : Json} {members : List (String × Json)}
    (h : name ∉ members.map (·.1)) :
    setMember name value members = members ++ [(name, value)] := by
  induction members with
  | nil => rfl
  | cons m rest ih =>
      rw [List.map_cons, List.mem_cons, not_or] at h
      obtain ⟨hne, hrest⟩ := h
      rw [setMember, if_neg (Ne.symm hne), ih hrest]
      rfl

/-- Members that have no name twice are collected as they come. -/
theorem foldl_setMember {done members : List (String × Json)}
    (h : ((done ++ members).map (·.1)).Nodup) :
    members.foldl (fun done m => setMember m.1 m.2 done) done = done ++ members := by
  induction members generalizing done with
  | nil => simp
  | cons m rest ih =>
      have hfresh : m.1 ∉ done.map (·.1) := by
        intro hmem
        rw [List.map_append, List.map_cons] at h
        exact List.disjoint_of_nodup_append h hmem List.mem_cons_self
      rw [List.foldl_cons, setMember_of_fresh hfresh, ih (by simpa using h), List.append_assoc]
      rfl

theorem readsAs_obj {written : String × Json → Written} {members : List (String × Json)}
    (hnodup : (members.map (·.1)).Nodup)
    (h : ∀ m ∈ members, ReadsAs m.2.renderChars (written m) m.2) :
    ReadsAs (renderChars (.obj members))
      (.obj (members.map fun m => (rawOf m.1, written m))) (.obj members) := by
  constructor
  · intro frames expected rest hexpected hrest
    have hopen : (Progress.within frames expected).next? .openObject =
        some (.within (.object [] :: frames) .nameOrClose) :=
      next?_eq_takeValue hexpected (by simp)
    have hadds : ∀ m ∈ members, Bracket.object.Adds
        (quoteChars m.1.toList ++ ':' :: renderChars m.2) (rawOf m.1, written m) := by
      intro m hm done frames expected rest hexpected hrest
      have hname : (Progress.within (.object done :: frames) expected).next? (.str (rawOf m.1)) =
          some (.within (.object done :: frames) (.colon (rawOf m.1))) := by
        rcases hexpected with rfl | rfl <;> rfl
      have hvalue := (h m hm).delivered (.member done (rawOf m.1) :: frames) .value rest (.inl rfl)
        hrest
      have htext : quoteChars m.1.toList ++ ':' :: renderChars m.2 ++ rest =
          '"' :: (m.1.toList.flatMap escapeChar ++ '"' :: ':' :: (renderChars m.2 ++ rest)) := by
        simp [quoteChars]
      change (Progress.within (.object done :: frames) expected).readOn _ = _
      rw [htext, Progress.readOn_cons _ rfl (readToken?_string m.1 _), hname, Option.bind_some,
        Progress.readOn_cons _ rfl rfl]
      exact hvalue
    rw [renderChars, List.cons_append, List.append_assoc, Progress.readOn_cons _ rfl rfl, hopen,
      Option.bind_some, renderMembers_eq_map]
    exact Bracket.readOn_commaSeparated hadds frames rest
  · rw [ofWritten?, ofWrittenMembers?_map fun m hm => (h m hm).value, Option.map_some,
      foldl_setMember (by simpa using hnodup), List.nil_append]

theorem Restorable.exists_readsAs {v : Json} (h : Restorable v) :
    ∃ w, ReadsAs v.renderChars w v := by
  induction h with
  | null => exact ⟨_, readsAs_null⟩
  | bool value => exact ⟨_, readsAs_bool value⟩
  | int hlow hhigh => exact ⟨_, readsAs_int hlow hhigh⟩
  | str text => exact ⟨_, readsAs_str text⟩
  | arr _ ih =>
      -- Each item has been read as some tree; the tree of the list holds these.
      choose! written hwritten using ih
      exact ⟨_, readsAs_arr hwritten⟩
  | obj hnodup _ ih =>
      choose! written hwritten using ih
      exact ⟨_, readsAs_obj hnodup hwritten⟩

/-- A text that is read as a value wherever one may stand is read as that value alone. -/
theorem ReadsAs.ofGlyphs?_eq {cs : List Char} {w : Written} {v : Json} (h : ReadsAs cs w v) :
    Written.ofGlyphs? (cs.map .char) = some w := by
  have hdelivered := h.delivered [] .value [] (.inl rfl) nofun
  rw [List.append_nil] at hdelivered
  exact ofGlyphs?_of_readOn (hdelivered.trans (Progress.readOn_nil _))

/-- A value is restored from its text. -/
theorem parse?_render {v : Json} (h : Restorable v) : parse? v.render = some v := by
  obtain ⟨w, hread⟩ := h.exists_readsAs
  unfold parse? Glyph.ofText render
  rw [String.toList_ofList, hread.ofGlyphs?_eq, Option.bind_some, hread.value]

theorem render_injective {v v' : Json} (h : Restorable v) (h' : Restorable v')
    (heq : v.render = v'.render) : v = v' := by
  have hparse := parse?_render h
  rw [heq, parse?_render h'] at hparse
  exact (Option.some.inj hparse).symm

end ModelGate.Json

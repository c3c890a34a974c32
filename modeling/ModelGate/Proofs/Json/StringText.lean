import Mathlib
import ModelGate.Json.Lexeme

/-!
# Written strings

The syntax of a JSON string behind its opening quote, as a relation between what is written and the
text that it stands for.  A character stands for itself unless it is a quote, a backslash or a
control character; a backslash announces a short escape, or the code of a character in four
hexadecimal digits; a character beyond the first 65536 is written as a pair of surrogate codes.

`readString_eq_ok_iff` says that the reader accepts exactly the strings of this syntax and leaves
what follows them.  Which digits are hexadecimal and which letters are escapes is written out in
tables (`hexDigits`, `shortEscapes`) that the reader does not use.
-/

namespace ModelGate.Json

/-- The hexadecimal digits with their values. -/
def hexDigits : List (Char × Nat) :=
  [('0', 0), ('1', 1), ('2', 2), ('3', 3), ('4', 4), ('5', 5), ('6', 6), ('7', 7), ('8', 8), ('9', 9),
    ('a', 10), ('b', 11), ('c', 12), ('d', 13), ('e', 14), ('f', 15),
    ('A', 10), ('B', 11), ('C', 12), ('D', 13), ('E', 14), ('F', 15)]

/-- The letters that may stand behind a backslash, with the characters that they stand for. -/
def shortEscapes : List (Char × Char) :=
  [('"', '"'), ('\\', '\\'), ('/', '/'), ('b', '\x08'), ('f', '\x0c'), ('n', '\n'), ('r', '\r'),
    ('t', '\t')]

/-- Four hexadecimal digits and the code that they write. -/
inductive HexFour : List Char → Nat → Prop
  | digits {a b c d : Char} {va vb vc vd : Nat} (ha : (a, va) ∈ hexDigits)
      (hb : (b, vb) ∈ hexDigits) (hc : (c, vc) ∈ hexDigits) (hd : (d, vd) ∈ hexDigits) :
      HexFour [a, b, c, d] (((va * 16 + vb) * 16 + vc) * 16 + vd)

/-- A code of the first half of a surrogate pair. -/
def IsHighSurrogate (n : Nat) : Prop :=
  0xD800 ≤ n ∧ n ≤ 0xDBFF

/-- A code of the second half of a surrogate pair. -/
def IsLowSurrogate (n : Nat) : Prop :=
  0xDC00 ≤ n ∧ n ≤ 0xDFFF

/-- One character of a string and how it may be written. -/
inductive PieceText : List Char → Char → Prop
  | plain {c : Char} (hquote : c ≠ '"') (hslash : c ≠ '\\') (hcontrol : 32 ≤ c.toNat) :
      PieceText [c] c
  | short {e d : Char} (h : (e, d) ∈ shortEscapes) : PieceText ['\\', e] d
  | code {digits : List Char} {n : Nat} (h : HexFour digits n) (hhigh : ¬ IsHighSurrogate n)
      (hlow : ¬ IsLowSurrogate n) : PieceText ('\\' :: 'u' :: digits) (Char.ofNat n)
  | pair {high low : List Char} {n m : Nat} (hn : HexFour high n) (hm : HexFour low m)
      (hhigh : IsHighSurrogate n) (hlow : IsLowSurrogate m) :
      PieceText ('\\' :: 'u' :: (high ++ '\\' :: 'u' :: low))
        (Char.ofNat ((n - 0xD800) * 0x400 + (m - 0xDC00) + 0x10000))

/-- A string behind its opening quote, up to its closing one, and the text that it stands for. -/
inductive StringText : List Char → List Char → Prop
  | close : StringText ['"'] []
  | piece {written rest text : List Char} {c : Char} (h : PieceText written c)
      (hrest : StringText rest text) : StringText (written ++ rest) (c :: text)

/-! ## The tables of the reader -/

/-- The digits with the codes of a range stand in the table if they do so one by one. -/
theorem mem_hexDigits_of_range (low high base : Nat) {c : Char}
    (hall : ∀ code ∈ List.range' low (high + 1 - low), (Char.ofNat code, code - base) ∈ hexDigits)
    (hlow : low ≤ c.toNat) (hhigh : c.toNat ≤ high) : (c, c.toNat - base) ∈ hexDigits := by
  have hmem := hall c.toNat (List.mem_range'_1.2 ⟨hlow, by omega⟩)
  rwa [Char.ofNat_toNat] at hmem

theorem hexValue?_eq_some_iff (c : Char) (n : Nat) :
    hexValue? c = some n ↔ (c, n) ∈ hexDigits := by
  constructor
  · intro h
    unfold hexValue? at h
    split_ifs at h with hdecimal hsmall hgreat
    · cases h
      exact mem_hexDigits_of_range 48 57 48 (by decide) hdecimal.1 hdecimal.2
    · cases h
      exact mem_hexDigits_of_range 97 102 87 (by decide) hsmall.1 hsmall.2
    · cases h
      exact mem_hexDigits_of_range 65 70 55 (by decide) hgreat.1 hgreat.2
  · have hall : ∀ digit ∈ hexDigits, hexValue? digit.1 = some digit.2 := by decide
    exact hall (c, n)

theorem shortEscape?_eq_some_iff (e d : Char) :
    shortEscape? e = some d ↔ (e, d) ∈ shortEscapes := by
  constructor
  · intro h
    unfold shortEscape? at h
    split at h <;> cases h <;> decide
  · have hall : ∀ escape ∈ shortEscapes, shortEscape? escape.1 = some escape.2 := by decide
    exact hall (e, d)

theorem readHexFour_eq_ok_iff (cs rest : List Char) (n : Nat) :
    readHexFour cs = .ok (n, rest) ↔ ∃ digits, HexFour digits n ∧ cs = digits ++ rest := by
  constructor
  · intro h
    unfold readHexFour at h
    split at h
    · next a b c d tail =>
      split at h
      · next va vb vc vd ha hb hc hd =>
        simp only [Except.ok.injEq, Prod.mk.injEq] at h
        obtain ⟨rfl, rfl⟩ := h
        rw [hexValue?_eq_some_iff] at ha hb hc hd
        exact ⟨[a, b, c, d], .digits ha hb hc hd, rfl⟩
      · cases h
    · cases h
  · rintro ⟨digits, hdigits, rfl⟩
    cases hdigits with
    | digits ha hb hc hd =>
        rw [← hexValue?_eq_some_iff] at ha hb hc hd
        simp [readHexFour, ha, hb, hc, hd]

/-- The letter that announces a code is no short escape. -/
theorem not_mem_shortEscapes_u (d : Char) : ('u', d) ∉ shortEscapes := by
  simp [shortEscapes]

/-- Behind `\u` the reader takes the code of a character, or the codes of a surrogate pair. -/
theorem readNumbered_eq_ok_iff (cs rest : List Char) (p : Piece) :
    readNumbered cs = .ok (p, rest) ↔
      ∃ written c, PieceText ('\\' :: 'u' :: written) c ∧ p = .char c ∧ cs = written ++ rest := by
  constructor
  · intro h
    unfold readNumbered at h
    split at h
    · cases h
    · next n tail hn =>
      obtain ⟨digits, hdigits, rfl⟩ := (readHexFour_eq_ok_iff _ _ _).1 hn
      split at h
      · cases h
      · next hlow =>
        split at h
        · next hhigh =>
          simp only [Except.ok.injEq, Prod.mk.injEq] at h
          obtain ⟨rfl, rfl⟩ := h
          refine ⟨digits, _, .code hdigits ?_ hlow, rfl, rfl⟩
          rintro ⟨hge, hle⟩
          omega
        · next hhigh =>
          -- The first code is half a pair, so that a second one has to follow.
          split at h
          · cases h
          · cases h
          · next low =>
            split at h
            · cases h
            · next m tail hm =>
              obtain ⟨digits', hdigits', rfl⟩ := (readHexFour_eq_ok_iff _ _ _).1 hm
              split at h
              · next hmlow =>
                simp only [Except.ok.injEq, Prod.mk.injEq] at h
                obtain ⟨rfl, rfl⟩ := h
                refine ⟨digits ++ '\\' :: 'u' :: digits', _,
                  .pair hdigits hdigits' ?_ hmlow, rfl, by simp⟩
                exact ⟨by omega, by omega⟩
              · cases h
          · cases h
  · rintro ⟨written, c, hpiece, rfl, rfl⟩
    unfold readNumbered
    cases hpiece with
    | short h => exact absurd h (not_mem_shortEscapes_u _)
    | @code digits n hdigits hhigh hlow =>
        rw [(readHexFour_eq_ok_iff (written ++ rest) rest n).2 ⟨written, hdigits, rfl⟩]
        have hnot : n < 0xD800 ∨ 0xDBFF < n := by
          unfold IsHighSurrogate at hhigh
          omega
        unfold IsLowSurrogate at hlow
        simp only
        rw [if_neg hlow, if_pos hnot]
    | @pair high low n m hn hm hhigh hlow =>
        have hfirst : readHexFour (high ++ '\\' :: 'u' :: low ++ rest) =
            .ok (n, '\\' :: 'u' :: (low ++ rest)) :=
          (readHexFour_eq_ok_iff _ _ _).2 ⟨high, hn, by simp⟩
        have hsecond : readHexFour (low ++ rest) = .ok (m, rest) :=
          (readHexFour_eq_ok_iff _ _ _).2 ⟨low, hm, rfl⟩
        obtain ⟨hge, hle⟩ := hhigh
        obtain ⟨hmge, hmle⟩ := hlow
        simp only [hfirst, hsecond]
        rw [if_neg (by omega), if_neg (by omega), if_pos ⟨hmge, hmle⟩]

/-- What the reader takes from the front of a text: the closing quote or one written character. -/
theorem readPiece_eq_ok {cs rest : List Char} {p : Piece} (h : readPiece cs = .ok (p, rest)) :
    (p = .close ∧ cs = '"' :: rest) ∨
      ∃ written c, PieceText written c ∧ p = .char c ∧ cs = written ++ rest := by
  unfold readPiece at h
  split at h
  · cases h
  · next d tail =>
    split at h
    · next hquote =>
      simp only [Except.ok.injEq, Prod.mk.injEq] at h
      obtain ⟨rfl, rfl⟩ := h
      exact Or.inl ⟨rfl, by rw [hquote]⟩
    · next hquote =>
      split at h
      · next hslash =>
        -- A backslash announces a short escape or the code of a character.
        subst hslash
        split at h
        · cases h
        · next e tail =>
          split at h
          · next hu =>
            subst hu
            obtain ⟨written, c, hpiece, rfl, rfl⟩ := (readNumbered_eq_ok_iff _ _ _).1 h
            exact Or.inr ⟨_, c, hpiece, rfl, rfl⟩
          · split at h
            · next hshort =>
              simp only [Except.ok.injEq, Prod.mk.injEq] at h
              obtain ⟨rfl, rfl⟩ := h
              exact Or.inr ⟨_, _, .short ((shortEscape?_eq_some_iff _ _).1 hshort), rfl, rfl⟩
            · cases h
      · next hslash =>
        split at h
        · cases h
        · next hcontrol =>
          simp only [Except.ok.injEq, Prod.mk.injEq] at h
          obtain ⟨rfl, rfl⟩ := h
          exact Or.inr ⟨[d], d, .plain hquote hslash (by omega), rfl, rfl⟩

theorem readPiece_eq_close_iff (cs rest : List Char) :
    readPiece cs = .ok (.close, rest) ↔ cs = '"' :: rest := by
  constructor
  · intro h
    rcases readPiece_eq_ok h with ⟨-, hcs⟩ | ⟨written, c, -, hp, -⟩
    · exact hcs
    · cases hp
  · rintro rfl
    rfl

/-- The reader takes one written character from the front of a text. -/
theorem readPiece_eq_char_iff (cs rest : List Char) (c : Char) :
    readPiece cs = .ok (.char c, rest) ↔ ∃ written, PieceText written c ∧ cs = written ++ rest := by
  constructor
  · intro h
    rcases readPiece_eq_ok h with ⟨hp, -⟩ | ⟨written, c', hpiece, hp, hcs⟩
    · cases hp
    · cases hp
      exact ⟨written, hpiece, hcs⟩
  · rintro ⟨written, hpiece, rfl⟩
    cases hpiece with
    | plain hquote hslash hcontrol =>
        simp [readPiece, hquote, hslash, Nat.not_lt.2 hcontrol]
    | @short e _ h =>
        have he : e ≠ 'u' := by
          rintro rfl
          exact not_mem_shortEscapes_u _ h
        simp [readPiece, he, (shortEscape?_eq_some_iff _ _).2 h]
    | code h hhigh hlow =>
        have hread := (readNumbered_eq_ok_iff _ rest _).2 ⟨_, _, .code h hhigh hlow, rfl, rfl⟩
        simpa [readPiece] using hread
    | pair hn hm hhigh hlow =>
        have hread := (readNumbered_eq_ok_iff _ rest _).2 ⟨_, _, .pair hn hm hhigh hlow, rfl, rfl⟩
        simpa [readPiece] using hread

theorem readString_of_close {cs rest : List Char} (h : readPiece cs = .ok (.close, rest)) :
    readString cs = .ok ([], rest) := by
  rw [readString]
  split
  · next h' => cases h.symm.trans h'
  · next h' =>
    cases h.symm.trans h'
    rfl
  · next h' => cases h.symm.trans h'

theorem readString_of_char {cs tail text rest : List Char} {c : Char}
    (h : readPiece cs = .ok (.char c, tail)) (hmore : readString tail = .ok (text, rest)) :
    readString cs = .ok (c :: text, rest) := by
  rw [readString]
  split
  · next h' => cases h.symm.trans h'
  · next h' => cases h.symm.trans h'
  · next h' =>
    cases h.symm.trans h'
    rw [hmore]

/-- The reader accepts exactly the written strings at the front of a text. -/
theorem readString_eq_ok_iff (cs text rest : List Char) :
    readString cs = .ok (text, rest) ↔ ∃ written, StringText written text ∧ cs = written ++ rest := by
  constructor
  · intro h
    fun_induction readString cs generalizing text rest with
    | case1 => cases h
    | case2 cs tail hpiece =>
        simp only [Except.ok.injEq, Prod.mk.injEq] at h
        obtain ⟨rfl, rfl⟩ := h
        exact ⟨['"'], .close, (readPiece_eq_close_iff _ _).1 hpiece⟩
    | case3 => cases h
    | case4 cs c tail hpiece text' rest' hread ih =>
        simp only [Except.ok.injEq, Prod.mk.injEq] at h
        obtain ⟨rfl, rfl⟩ := h
        obtain ⟨written, hwritten, rfl⟩ := (readPiece_eq_char_iff _ _ _).1 hpiece
        obtain ⟨more, hmore, rfl⟩ := ih _ _ hread
        exact ⟨written ++ more, .piece hwritten hmore, by simp⟩
  · rintro ⟨written, hwritten, rfl⟩
    induction hwritten with
    | close => exact readString_of_close ((readPiece_eq_close_iff _ _).2 rfl)
    | @piece written more text c hpiece hmore ih =>
        have hchar : readPiece (written ++ more ++ rest) = .ok (.char c, more ++ rest) :=
          (readPiece_eq_char_iff _ _ _).2 ⟨written, hpiece, by simp⟩
        exact readString_of_char hchar ih

/-! ## One reading only -/

theorem HexFour.unique {digits digits' rest rest' : List Char} {n m : Nat} (h : HexFour digits n)
    (h' : HexFour digits' m) (heq : digits ++ rest = digits' ++ rest') : n = m ∧ rest = rest' := by
  have hread := (readHexFour_eq_ok_iff (digits ++ rest) rest n).2 ⟨digits, h, rfl⟩
  have hread' := (readHexFour_eq_ok_iff (digits ++ rest) rest' m).2 ⟨digits', h', heq⟩
  rw [hread] at hread'
  cases hread'
  exact ⟨rfl, rfl⟩

theorem PieceText.unique {written written' rest rest' : List Char} {c d : Char}
    (h : PieceText written c) (h' : PieceText written' d)
    (heq : written ++ rest = written' ++ rest') : c = d ∧ rest = rest' := by
  have hread := (readPiece_eq_char_iff (written ++ rest) rest c).2 ⟨written, h, rfl⟩
  have hread' := (readPiece_eq_char_iff (written ++ rest) rest' d).2 ⟨written', h', heq⟩
  rw [hread] at hread'
  cases hread'
  exact ⟨rfl, rfl⟩

/-- No character is written with a quote in front. -/
theorem PieceText.ne_quote {written rest rest' : List Char} {c : Char} (h : PieceText written c) :
    written ++ rest ≠ '"' :: rest' := by
  intro heq
  have hread := (readPiece_eq_char_iff (written ++ rest) rest c).2 ⟨written, h, rfl⟩
  rw [(readPiece_eq_close_iff _ _).2 heq] at hread
  cases hread

theorem StringText.unique {written written' text text' rest rest' : List Char}
    (h : StringText written text) (h' : StringText written' text')
    (heq : written ++ rest = written' ++ rest') : text = text' ∧ rest = rest' := by
  have hread := (readString_eq_ok_iff (written ++ rest) text rest).2 ⟨written, h, rfl⟩
  have hread' := (readString_eq_ok_iff (written ++ rest) text' rest').2 ⟨written', h', heq⟩
  rw [hread] at hread'
  cases hread'
  exact ⟨rfl, rfl⟩

end ModelGate.Json

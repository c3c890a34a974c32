import ModelGate.Json.Lexeme
import ModelGate.Text.Glyph

/-!
# Tokens of a JSON text

The lexemes of a whole text. A string keeps its written form, because a string that nobody wants
to read may hold stray bytes and halves of surrogate pairs.
-/

namespace ModelGate.Json

/-- A lexeme of a JSON text. -/
inductive Token where
  | openList
  | closeList
  | openObject
  | closeObject
  | comma
  | colon
  | null
  | bool (value : Bool)
  | number (numeral : Numeral)
  | str (raw : List Glyph)

/-- Where a scan of a written string stands: between characters, behind a backslash, or inside a
numbered character with some digits to come. -/
inductive RawPlace where
  | plain
  | escaped
  | numbered (left : Nat)

/-- The place behind one more glyph of a written string, if it may stand there. -/
def RawPlace.next? : RawPlace → Glyph → Option RawPlace
  | .plain, .stray _ => some .plain
  | .plain, .char c =>
    if c = '\\' then some .escaped else if c.toNat < 32 then none else some .plain
  | .escaped, .char c =>
    if c = 'u' then some (.numbered 3) else (shortEscape? c).map fun _ => .plain
  | .numbered left, .char c =>
    (hexValue? c).map fun _ => if left = 0 then .plain else .numbered (left - 1)
  | _, .stray _ => none

/-- Reads a written string behind its opening quote; what is already read stands in reverse. -/
def readRaw (done : List Glyph) : RawPlace → List Glyph → Option (List Glyph × List Glyph)
  | _, [] => none
  | place, g :: rest =>
    match place, g with
    | .plain, .char '"' => some (done.reverse, rest)
    | _, _ =>
      match place.next? g with
      | some place => readRaw (g :: done) place rest
      | none => none

theorem readRaw_length {glyphs done raw rest : List Glyph} {place : RawPlace}
    (h : readRaw done place glyphs = some (raw, rest)) : rest.length < glyphs.length := by
  induction glyphs generalizing done place with
  | nil => simp [readRaw] at h
  | cons g tail ih =>
    simp only [readRaw] at h
    split at h
    · simp at h
      simp [← h.2]
    · split at h
      · have := ih h
        simp only [List.length_cons]
        omega
      · simp at h

/-- Drops a given word from the front of a text. -/
def dropWord? : List Char → List Glyph → Option (List Glyph)
  | [], glyphs => some glyphs
  | w :: word, .char c :: rest => if w = c then dropWord? word rest else none
  | _ :: _, _ => none

theorem dropWord?_length {word : List Char} {glyphs rest : List Glyph}
    (h : dropWord? word glyphs = some rest) : rest.length ≤ glyphs.length := by
  induction word generalizing glyphs with
  | nil => simp_all [dropWord?]
  | cons w word ih =>
    cases glyphs with
    | nil => simp [dropWord?] at h
    | cons g tail =>
      cases g with
      | stray b => simp [dropWord?] at h
      | char c =>
        simp only [dropWord?] at h
        split at h
        · have := ih h
          simp only [List.length_cons]
          omega
        · simp at h

def isNumberGlyph : Glyph → Bool
  | .char c => c.isDigit || "+-.eE".contains c
  | .stray _ => false

/-- The numeral that a run of characters is. -/
def numeralOf? (run : List Glyph) : Option Numeral := do
  let cs ← Glyph.chars? run
  match readNumeral cs with
  | .ok (numeral, []) => some numeral
  | _ => none

/-- Reads one token that starts at a character. -/
def readToken? (c : Char) (rest : List Glyph) : Option (Token × List Glyph) :=
  match c with
  | '[' => some (.openList, rest)
  | ']' => some (.closeList, rest)
  | '\x7b' => some (.openObject, rest)
  | '\x7d' => some (.closeObject, rest)
  | ',' => some (.comma, rest)
  | ':' => some (.colon, rest)
  | '"' => (readRaw [] .plain rest).map fun (raw, rest) => (.str raw, rest)
  | 'n' => (dropWord? "ull".toList rest).map fun rest => (.null, rest)
  | 't' => (dropWord? "rue".toList rest).map fun rest => (.bool true, rest)
  | 'f' => (dropWord? "alse".toList rest).map fun rest => (.bool false, rest)
  | c =>
    (numeralOf? (.char c :: rest.takeWhile isNumberGlyph)).map fun numeral =>
      (.number numeral, rest.dropWhile isNumberGlyph)

theorem readToken?_length {c : Char} {glyphs rest : List Glyph} {t : Token}
    (h : readToken? c glyphs = some (t, rest)) : rest.length ≤ glyphs.length := by
  unfold readToken? at h
  split at h
  case h_7 =>
    simp only [Option.map_eq_some_iff, Prod.mk.injEq] at h
    obtain ⟨⟨raw, r⟩, hr, -, rfl⟩ := h
    exact Nat.le_of_lt (readRaw_length hr)
  case h_8 =>
    simp only [Option.map_eq_some_iff, Prod.mk.injEq] at h
    obtain ⟨r, hr, -, rfl⟩ := h
    exact dropWord?_length hr
  case h_9 =>
    simp only [Option.map_eq_some_iff, Prod.mk.injEq] at h
    obtain ⟨r, hr, -, rfl⟩ := h
    exact dropWord?_length hr
  case h_10 =>
    simp only [Option.map_eq_some_iff, Prod.mk.injEq] at h
    obtain ⟨r, hr, -, rfl⟩ := h
    exact dropWord?_length hr
  case h_11 =>
    simp only [Option.map_eq_some_iff, Prod.mk.injEq] at h
    obtain ⟨n, -, -, rfl⟩ := h
    exact (List.dropWhile_suffix _).length_le
  all_goals
    simp only [Option.some.injEq, Prod.mk.injEq] at h
    exact Nat.le_of_eq (congrArg List.length h.2.symm)

/-- The tokens of a text, behind those already read, which stand in reverse. -/
def tokensFrom? (done : List Token) : List Glyph → Option (List Token)
  | [] => some done.reverse
  | .stray _ :: _ => none
  | .char c :: rest =>
    if isBlank c then tokensFrom? done rest
    else
      match _h : readToken? c rest with
      | some (token, rest) => tokensFrom? (token :: done) rest
      | none => none
termination_by glyphs => glyphs.length
decreasing_by
  · simp
  · have := readToken?_length _h
    simp only [List.length_cons]
    omega

/-- The tokens of a text. -/
def tokens? (glyphs : List Glyph) : Option (List Token) :=
  tokensFrom? [] glyphs

end ModelGate.Json

/-!
# Lexemes of JSON

Readers for the words, strings and numbers of a JSON text, from left to right. Each one stops at
the first fault and says of which class it is, or gives what it read and the text behind it.
-/

namespace ModelGate.Json

/-- The class of the first fault in a text. -/
inductive Fault where
  /-- The text ends where more is needed. -/
  | ended
  /-- The text is no JSON from here on. -/
  | malformed
  /-- The text is JSON so far, but its value is not of the wanted type. -/
  | mistyped
  deriving DecidableEq, Repr

/-- The blanks between lexemes. -/
def isBlank (c : Char) : Bool :=
  c == ' ' || c == '\t' || c == '\n' || c == '\r'

/-- The text from its first character that is not blank. -/
def skipBlank (cs : List Char) : List Char :=
  cs.dropWhile isBlank

theorem skipBlank_length_le (cs : List Char) : (skipBlank cs).length ≤ cs.length :=
  (List.dropWhile_suffix isBlank).length_le

/-- The number of bytes in which a text is stored. -/
def byteCount (cs : List Char) : Nat :=
  cs.foldr (·.utf8Size + ·) 0

/-- The value of a hexadecimal digit. -/
def hexValue? (c : Char) : Option Nat :=
  if '0' ≤ c ∧ c ≤ '9' then some (c.toNat - 48)
  else if 'a' ≤ c ∧ c ≤ 'f' then some (c.toNat - 87)
  else if 'A' ≤ c ∧ c ≤ 'F' then some (c.toNat - 55)
  else none

/-- Reads a given word. -/
def readWord : List Char → List Char → Except Fault (List Char)
  | [], cs => .ok cs
  | _ :: _, [] => .error .ended
  | w :: word, c :: cs => if w = c then readWord word cs else .error .malformed

/-- Reads four hexadecimal digits; a text of less than four bytes ends too early. -/
def readHexFour : List Char → Except Fault (Nat × List Char)
  | a :: b :: c :: d :: rest =>
    match hexValue? a, hexValue? b, hexValue? c, hexValue? d with
    | some a, some b, some c, some d => .ok (((a * 16 + b) * 16 + c) * 16 + d, rest)
    | _, _, _, _ => .error .malformed
  | cs => .error (if byteCount cs < 4 then .ended else .malformed)

/-- What the next lexeme inside a string is. -/
inductive Piece where
  | char (c : Char)
  | close
  deriving DecidableEq, Repr

/-- The character that a letter stands for behind a backslash. -/
def shortEscape? (c : Char) : Option Char :=
  match c with
  | '"' => some '"'
  | '\\' => some '\\'
  | '/' => some '/'
  | 'b' => some '\x08'
  | 'f' => some '\x0c'
  | 'n' => some '\n'
  | 'r' => some '\r'
  | 't' => some '\t'
  | _ => none

/-- Reads a numbered character behind its `u`; the two halves of a surrogate pair stand together. -/
def readNumbered (cs : List Char) : Except Fault (Piece × List Char) :=
  match readHexFour cs with
  | .error fault => .error fault
  | .ok (n, rest) =>
    if 0xDC00 ≤ n ∧ n ≤ 0xDFFF then .error .malformed
    else if n < 0xD800 ∨ 0xDBFF < n then .ok (.char (Char.ofNat n), rest)
    else
      match rest with
      | [] => .error .ended
      | ['\\'] => .error .ended
      | '\\' :: 'u' :: low =>
        match readHexFour low with
        | .error fault => .error fault
        | .ok (m, rest) =>
          if 0xDC00 ≤ m ∧ m ≤ 0xDFFF then
            .ok (.char (Char.ofNat ((n - 0xD800) * 0x400 + (m - 0xDC00) + 0x10000)), rest)
          else .error .malformed
      | _ => .error .malformed

/-- Reads one character of a string, or its closing quote. -/
def readPiece : List Char → Except Fault (Piece × List Char)
  | [] => .error .ended
  | c :: rest =>
    if c = '"' then .ok (.close, rest)
    else if c = '\\' then
      match rest with
      | [] => .error .ended
      | e :: rest =>
        if e = 'u' then readNumbered rest
        else
          match shortEscape? e with
          | some d => .ok (.char d, rest)
          | none => .error .malformed
    else if c.toNat < 32 then .error .malformed
    else .ok (.char c, rest)

theorem readHexFour_length {cs rest : List Char} {n : Nat} (h : readHexFour cs = .ok (n, rest)) :
    rest.length + 4 = cs.length := by
  unfold readHexFour at h
  split at h
  · split at h <;> simp at h
    simp [← h.2]
  · simp at h

theorem readNumbered_length {cs rest : List Char} {p : Piece}
    (h : readNumbered cs = .ok (p, rest)) : rest.length < cs.length := by
  unfold readNumbered at h
  split at h
  · simp at h
  · next n r hr =>
    have hlen := readHexFour_length hr
    split at h
    · simp at h
    · split at h
      · simp only [Except.ok.injEq, Prod.mk.injEq] at h
        rw [← h.2]
        omega
      · split at h
        · simp at h
        · simp at h
        · split at h
          · simp at h
          · next hm =>
            have hlow := readHexFour_length hm
            simp only [List.length_cons] at hlen
            split at h
            · simp only [Except.ok.injEq, Prod.mk.injEq] at h
              rw [← h.2]
              omega
            · simp at h
        · simp at h

theorem readPiece_length {cs rest : List Char} {p : Piece}
    (h : readPiece cs = .ok (p, rest)) : rest.length < cs.length := by
  unfold readPiece at h
  split at h
  · simp at h
  · split at h
    · simp at h
      simp [← h.2]
    · split at h
      · split at h
        · simp at h
        · split at h
          · have := readNumbered_length h
            simp only [List.length_cons]
            omega
          · split at h
            · simp at h
              simp only [← h.2, List.length_cons]
              omega
            · simp at h
      · split at h
        · simp at h
        · simp at h
          simp [← h.2]

/-- Reads a string behind its opening quote. -/
def readString (cs : List Char) : Except Fault (List Char × List Char) :=
  match _h : readPiece cs with
  | .error fault => .error fault
  | .ok (.close, rest) => .ok ([], rest)
  | .ok (.char c, rest) =>
    match readString rest with
    | .error fault => .error fault
    | .ok (text, rest) => .ok (c :: text, rest)
termination_by cs.length
decreasing_by exact readPiece_length _h

/-- A number as it is written: its sign and its three runs of digits. -/
structure Numeral where
  negative : Bool
  whole : List Char
  fraction : List Char
  exponent : Option (Bool × List Char)
  deriving DecidableEq, Repr

/-- Reads at least one decimal digit. -/
def readDigits (cs : List Char) : Except Fault (List Char × List Char) :=
  match cs.takeWhile Char.isDigit, cs with
  | [], [] => .error .ended
  | [], _ :: _ => .error .malformed
  | digits, _ => .ok (digits, cs.dropWhile Char.isDigit)

/-- Reads the digits before the point: a leading zero stands alone. -/
def readWhole (cs : List Char) : Except Fault (List Char × List Char) :=
  match readDigits cs with
  | .ok ('0' :: _ :: _, _) => .error .malformed
  | other => other

/-- Reads the point and the digits behind it, if there is a point. -/
def readFraction : List Char → Except Fault (List Char × List Char)
  | '.' :: rest => readDigits rest
  | cs => .ok ([], cs)

/-- Reads an exponent, if there is one: whether it is negative, and its digits. -/
def readExponent : List Char → Except Fault (Option (Bool × List Char) × List Char)
  | [] => .ok (none, [])
  | c :: rest =>
    if c = 'e' ∨ c = 'E' then do
      let (negative, rest) := match rest with
        | '+' :: r => (false, r)
        | '-' :: r => (true, r)
        | r => (false, r)
      let (digits, rest) ← readDigits rest
      pure (some (negative, digits), rest)
    else .ok (none, c :: rest)

/-- Reads a number. -/
def readNumeral (cs : List Char) : Except Fault (Numeral × List Char) := do
  let (negative, cs) := match cs with
    | '-' :: r => (true, r)
    | r => (false, r)
  let (whole, cs) ← readWhole cs
  let (fraction, cs) ← readFraction cs
  let (exponent, cs) ← readExponent cs
  pure (⟨negative, whole, fraction, exponent⟩, cs)

/-- The value of a decimal digit. -/
def digitValue (c : Char) : Nat :=
  c.toNat - 48

/-- The value of a run of decimal digits. -/
def decimalValue (digits : List Char) : Nat :=
  digits.foldl (fun n c => n * 10 + digitValue c) 0

/-- Extends a 64-bit number by the digits that fit, and counts those that are left over. -/
def extendFitting (n : Nat) : List Char → Nat × Nat
  | [] => (n, 0)
  | c :: rest =>
    let m := n * 10 + digitValue c
    if m < UInt64.size then extendFitting m rest else (n, rest.length + 1)

/-- The nearest number with 53 significant bits; a tie goes to the even one. -/
def roundSignificand (n : Nat) : Nat :=
  if n < 1 <<< 53 then n
  else
    let unit := 1 <<< (n.log2 - 52)
    let down := n / unit
    let excess := 2 * (n % unit)
    (if excess < unit ∨ (excess = unit ∧ down % 2 = 0) then down else down + 1) * unit

/-- Whether a decimal number is beyond the doubles: the digits that fit 64 bits, scaled by a
power of ten that is itself rounded. -/
def Numeral.isTooLarge (x : Numeral) : Bool :=
  let (head, skipped) := extendFitting 0 x.whole
  let (significand, left) := extendFitting head x.fraction
  let shift : Int := skipped - ((x.fraction.length : Int) - left)
  let scale : Int := match x.exponent with
    | none => shift
    | some (true, digits) => shift - decimalValue digits
    | some (false, digits) => shift + decimalValue digits
  significand != 0 &&
    (decide (308 < scale) ||
      (decide (0 ≤ scale) &&
        decide (1 <<< 1024 ≤
          roundSignificand (roundSignificand significand *
            roundSignificand (Nat.pow 10 scale.toNat)))))

/-- Reads a number that a double can hold. -/
def readNumber (cs : List Char) : Except Fault (Numeral × List Char) :=
  match readNumeral cs with
  | .error fault => .error fault
  | .ok (x, rest) => if x.isTooLarge then .error .malformed else .ok (x, rest)

/-- The fault of a text whose first value is of no wanted type: a list or an object is mistyped
at its bracket, any other value once it is read. -/
def faultOfOther : List Char → Fault
  | [] => .ended
  | c :: rest =>
    let scalar {α : Type} (r : Except Fault α) : Fault :=
      match r with
      | .error fault => fault
      | .ok _ => .mistyped
    if c = '[' ∨ c = '\x7b' then .mistyped
    else if c = '"' then scalar (readString rest)
    else if c = '-' ∨ c.isDigit then scalar (readNumber (c :: rest))
    else if c = 't' then scalar (readWord "rue".toList rest)
    else if c = 'f' then scalar (readWord "alse".toList rest)
    else if c = 'n' then scalar (readWord "ull".toList rest)
    else .malformed

end ModelGate.Json

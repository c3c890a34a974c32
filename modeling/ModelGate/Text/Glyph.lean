/-!
# Received text

Bytes that should be UTF-8, cut into characters. A byte that belongs to no character stays as it
is, so that a reader can pass over it where it does no harm.
-/

namespace ModelGate

/-- A character of a received text, or a byte that belongs to none. -/
inductive Glyph where
  | char (c : Char)
  | stray (byte : UInt8)
  deriving DecidableEq

namespace Glyph

/-- The character of a glyph. -/
def char? : Glyph → Option Char
  | .char c => some c
  | .stray _ => none

/-- The glyphs of a text. -/
def ofText (text : String) : List Glyph :=
  text.toList.map .char

/-- The characters of a text without stray bytes. -/
def chars? (glyphs : List Glyph) : Option (List Char) :=
  glyphs.mapM char?

/-- The six bits of a continuation byte. -/
def continuation? (byte : UInt8) : Option Nat :=
  if 0x80 ≤ byte ∧ byte < 0xC0 then some (byte.toNat - 0x80) else none

/-- The character with a code in a range; the codes of surrogates belong to no character. -/
def charWithin? (low high code : Nat) : Option Char :=
  if low ≤ code ∧ code ≤ high ∧ ¬(0xD800 ≤ code ∧ code ≤ 0xDFFF) then some (Char.ofNat code)
  else none

/-- The character that starts at a byte, and the number of bytes behind that one it takes up. -/
def leading? (byte : UInt8) (rest : List UInt8) : Option (Char × Nat) := do
  let lead := byte.toNat
  if lead < 0x80 then return (Char.ofNat lead, 0)
  match rest with
  | [] => none
  | b :: rest =>
    let low ← continuation? b
    if 0xC0 ≤ lead ∧ lead < 0xE0 then
      return (← charWithin? 0x80 0x7FF ((lead - 0xC0) * 64 + low), 1)
    match rest with
    | [] => none
    | c :: rest =>
      let middle := low * 64 + (← continuation? c)
      if 0xE0 ≤ lead ∧ lead < 0xF0 then
        return (← charWithin? 0x800 0xFFFF ((lead - 0xE0) * 4096 + middle), 2)
      match rest with
      | [] => none
      | d :: _ =>
        let code := (lead - 0xF0) * 262144 + middle * 64 + (← continuation? d)
        if 0xF0 ≤ lead ∧ lead < 0xF8 then
          return (← charWithin? 0x10000 0x10FFFF code, 3)
        none

/-- Cuts bytes into glyphs, behind those already cut off, which stand in reverse. -/
def cut (done : List Glyph) : List UInt8 → List Glyph
  | [] => done.reverse
  | byte :: rest =>
    match leading? byte rest with
    | some (c, used) => cut (.char c :: done) (rest.drop used)
    | none => cut (.stray byte :: done) rest
termination_by bytes => bytes.length
decreasing_by all_goals simp only [List.length_drop, List.length_cons]; omega

/-- The glyphs of received bytes. -/
def ofBytes (bytes : List UInt8) : List Glyph :=
  cut [] bytes

end Glyph

end ModelGate

/-!
# Reading positions in a YAML text

The characters that YAML tells apart, and a position in a text with the line and the column that
belong to it.
-/

namespace ModelGate.Yaml

/-- Whether a character may stand in a YAML text at all. -/
def isAllowed (c : Char) : Bool :=
  let n := c.toNat
  n == 0x09 || n == 0x0A || n == 0x0D || (0x20 ≤ n && n ≤ 0x7E) || n == 0x85 ||
    (0xA0 ≤ n && n ≤ 0xFFFD) || 0x10000 ≤ n

/-- A blank inside a line. -/
def isBlank (c : Char) : Bool :=
  c == ' ' || c == '\t'

/-- A character that ends a line. -/
def isBreak (c : Char) : Bool :=
  c == '\n' || c == '\r' || c == '\u0085' || c == '\u2028' || c == '\u2029'

/-- A letter, a digit, a hyphen or an underscore, all in ASCII. -/
def isWordChar (c : Char) : Bool :=
  c.isAlphanum || c == '-' || c == '_'

/-- A bracket or a comma of a flow collection. -/
def isFlowIndicator (c : Char) : Bool :=
  c == ',' || c == '[' || c == ']' || c == '\x7b' || c == '\x7d'

/-- Whether a character is a blank or ends a line, or is missing because the text has ended. -/
def endsWord : Option Char → Bool
  | none => true
  | some c => isBlank c || isBreak c

/-- A position in a text, with what is left to read from there. -/
structure Cursor where
  rest : List Char
  /-- The number of characters of the whole text. -/
  size : Nat
  /-- The number of characters in front of the position. -/
  index : Nat
  line : Nat
  column : Nat

namespace Cursor

/-- The start of a text. -/
def ofText (text : String) : Cursor :=
  ⟨text.toList, text.length, 0, 0, 0⟩

/-- The number of characters that are left to read. -/
def left (c : Cursor) : Nat :=
  c.size - c.index

/-- The character at the position. -/
def here? (c : Cursor) : Option Char :=
  c.rest.head?

/-- The character some places on. -/
def ahead? (c : Cursor) (n : Nat) : Option Char :=
  c.rest[n]?

/-- Whether the text has ended. -/
def atEnd (c : Cursor) : Bool :=
  c.rest.isEmpty

/-- Whether a given character stands at the position. -/
def sees (c : Cursor) (x : Char) : Bool :=
  c.here? == some x

/-- Whether a line ends at the position. -/
def atBreak (c : Cursor) : Bool :=
  c.here?.any isBreak

/-- Whether a blank stands at the position. -/
def atBlank (c : Cursor) : Bool :=
  c.here?.any isBlank

/-- Moves on by some characters of the same line. -/
def advance (n : Nat) (c : Cursor) : Cursor :=
  ⟨c.rest.drop n, c.size, c.index + n, c.line, c.column + n⟩

/-- Moves on over all characters of a class. -/
def skipWhile (p : Char → Bool) (c : Cursor) : Cursor :=
  c.advance (c.rest.takeWhile p).length

/-- Moves to the next line and says what the line break counts as in a text: a line feed, or one
of the two Unicode separators. -/
def takeBreak (c : Cursor) : String × Cursor :=
  match c.rest with
  | '\r' :: '\n' :: rest => ("\n", ⟨rest, c.size, c.index + 2, c.line + 1, 0⟩)
  | '\u2028' :: rest => ("\u2028", ⟨rest, c.size, c.index + 1, c.line + 1, 0⟩)
  | '\u2029' :: rest => ("\u2029", ⟨rest, c.size, c.index + 1, c.line + 1, 0⟩)
  | x :: rest =>
    if isBreak x then ("\n", ⟨rest, c.size, c.index + 1, c.line + 1, 0⟩) else ("", c)
  | [] => ("", c)

/-- Moves on to the end of the line. -/
def skipToBreak (c : Cursor) : Cursor :=
  c.skipWhile fun x => !isBreak x

/-- Whether three given characters stand at the start of a line, followed by the end of a word. -/
def seesMarker (c : Cursor) (x : Char) : Bool :=
  c.column == 0 && c.rest.take 3 == [x, x, x] && endsWord (c.ahead? 3)

/-- Whether a document starts or ends at the position. -/
def seesDocumentMarker (c : Cursor) : Bool :=
  c.seesMarker '-' || c.seesMarker '.'

end Cursor

end ModelGate.Yaml

import ModelGate.Yaml.Property

/-!
# From characters to tokens

The indentation of a text decides where block collections start and end. A key is only known as
such when the colon behind it is met, so the place where a key may have started is kept until
then; such a key stands on one line and takes up at most 1024 characters.
-/

namespace ModelGate.Yaml

/-- A place where a key may have started. -/
structure KeyPlace where
  /-- Whether only a key can stand there, because it starts a line of a block mapping. -/
  required : Bool
  /-- The number of tokens in front of it. -/
  position : Nat
  start : Cursor

/-- How far a text is read, and what its indentation means from here on. -/
structure Layout where
  cursor : Cursor
  /-- The tokens so far, the latest first. -/
  tokens : List Token
  /-- The number of tokens so far. -/
  count : Nat
  /-- The column of the innermost block collection, or -1 outside of all. -/
  indent : Int
  /-- The columns of the block collections around it. -/
  outer : List Int
  /-- The possible key of every open flow collection, the innermost first, and of the block. -/
  keys : List (Option KeyPlace)
  /-- Whether a key may start here. -/
  keyAllowed : Bool

namespace Layout

/-- The start of a text. -/
def ofText (text : String) : Layout :=
  ⟨Cursor.ofText text, [], 0, -1, [], [none], true⟩

/-- Whether the position is inside a flow collection. -/
def inFlow (l : Layout) : Bool :=
  1 < l.keys.length

/-- Adds a token. -/
def emit (token : Token) (l : Layout) : Layout :=
  { l with tokens := token :: l.tokens, count := l.count + 1 }

/-- Adds a token in front of those that stand at a position and behind it. -/
def insert (token : Token) (position : Nat) (l : Layout) : Layout :=
  let later := l.count - position
  { l with
    tokens := l.tokens.take later ++ token :: l.tokens.drop later
    count := l.count + 1 }

/-- Moves the cursor. -/
def moveTo (c : Cursor) (l : Layout) : Layout :=
  { l with cursor := c }

/-- Sets whether a key may start next. -/
def allowKey (allowed : Bool) (l : Layout) : Layout :=
  { l with keyAllowed := allowed }

/-- Skips blanks, comments and line breaks. A tab may not indent a line of a block. -/
def skipSpace : Nat → Layout → Layout
  | 0, l => l
  | fuel + 1, l =>
    let c := l.cursor
    let c := if c.index == 0 && c.sees '\uFEFF' then c.advance 1 else c
    let c := c.skipWhile fun x => x == ' ' || ((l.inFlow || !l.keyAllowed) && x == '\t')
    let c := if c.sees '#' then c.skipToBreak else c
    if c.atBreak then
      skipSpace fuel { l with cursor := c.takeBreak.2, keyAllowed := l.keyAllowed || !l.inFlow }
    else l.moveTo c

/-- A possible key that can still become one, if the colon follows at the given position; it is
an error if only a key could have stood there. -/
def KeyPlace.refresh? (c : Cursor) (key : KeyPlace) : Option (Option KeyPlace) :=
  if key.start.line < c.line ∨ key.start.index + 1024 < c.index then
    if key.required then none else some none
  else some (some key)

/-- Forgets the possible keys that have become too old. -/
def dropStaleKeys? (l : Layout) : Option Layout := do
  let keys ← l.keys.mapM fun key => key.elim (some none) (KeyPlace.refresh? l.cursor)
  return { l with keys }

/-- Forgets the possible key of the innermost collection. -/
def dropKey? (l : Layout) : Option Layout :=
  match l.keys with
  | some key :: keys => if key.required then none else some { l with keys := none :: keys }
  | _ => some l

/-- Notes that a key may start here. -/
def noteKey? (l : Layout) : Option Layout :=
  if l.keyAllowed then do
    let l ← l.dropKey?
    let required := !l.inFlow && decide (l.indent = (l.cursor.column : Int))
    return { l with keys := some ⟨required, l.count, l.cursor⟩ :: l.keys.drop 1 }
  else some l

/-- Starts a block collection if a column is deeper than the innermost one. -/
def indentTo (column : Nat) (position : Option Nat) (token : Token) (l : Layout) : Layout :=
  if l.inFlow || decide ((column : Int) ≤ l.indent) then l
  else
    let l := { l with outer := l.indent :: l.outer, indent := column }
    match position with
    | none => l.emit token
    | some p => l.insert token p

/-- Ends the block collections that are deeper than a column. -/
def closeBlocks (column : Int) : List Int → Layout → Layout
  | [], l => l
  | next :: outer, l =>
    if column < l.indent then
      closeBlocks column outer { l.emit .blockEnd with indent := next, outer }
    else l

/-- Ends the block collections that are deeper than a column, unless inside a flow collection. -/
def unindentTo (column : Int) (l : Layout) : Layout :=
  if l.inFlow then l else closeBlocks column l.outer l

/-- Ends every block and emits a token that stands outside of all. -/
def topLevel? (read : Cursor → Option (Token × Cursor)) (l : Layout) : Option Layout := do
  let l ← (l.unindentTo (-1)).dropKey?
  let (token, c) ← read l.cursor
  return ((l.allowKey false).emit token).moveTo c

/-- Emits a token of some characters. -/
def take (token : Token) (n : Nat) (l : Layout) : Layout :=
  (l.emit token).moveTo (l.cursor.advance n)

/-- Opens a flow collection. -/
def openFlow? (token : Token) (l : Layout) : Option Layout := do
  let l ← l.noteKey?
  return ({ l with keys := none :: l.keys }.allowKey true).take token 1

/-- Closes a flow collection. -/
def closeFlow? (token : Token) (l : Layout) : Option Layout := do
  let l ← l.dropKey?
  let keys := if l.inFlow then l.keys.drop 1 else l.keys
  return ({ l with keys }.allowKey false).take token 1

/-- Separates the entries of a flow collection. -/
def separate? (l : Layout) : Option Layout := do
  let l ← l.dropKey?
  return (l.allowKey true).take .flowEntry 1

/-- Starts an entry of a block sequence. -/
def startEntry? (l : Layout) : Option Layout := do
  if !l.inFlow && !l.keyAllowed then none
  let l ← (l.indentTo l.cursor.column none .blockSequenceStart).dropKey?
  return (l.allowKey true).take .blockEntry 1

/-- Starts a key that has an indicator. -/
def startKey? (l : Layout) : Option Layout := do
  if !l.inFlow && !l.keyAllowed then none
  let l ← (l.indentTo l.cursor.column none .blockMappingStart).dropKey?
  return (l.allowKey !l.inFlow).take .key 1

/-- Starts a value; what stands in front of it becomes its key. -/
def startValue? (l : Layout) : Option Layout :=
  match l.keys with
  | some key :: keys =>
    let l := { l with keys := none :: keys }.insert .key key.position
    let l := l.indentTo key.start.column (some key.position) .blockMappingStart
    some ((l.allowKey false).take .value 1)
  | _ =>
    if !l.inFlow && !l.keyAllowed then none
    else
      let l := l.indentTo l.cursor.column none .blockMappingStart
      some ((l.allowKey !l.inFlow).take .value 1)

/-- Emits a token that may start a key. -/
def property? (read : Cursor → Option (Token × Cursor)) (l : Layout) : Option Layout := do
  let l ← l.noteKey?
  let (token, c) ← read l.cursor
  return ((l.allowKey false).emit token).moveTo c

/-- Emits a plain or quoted scalar. -/
def scalar? (style : ScalarStyle) (read : Cursor → Option ScalarRead) (l : Layout) :
    Option Layout := do
  let l ← l.noteKey?
  let s ← read l.cursor
  return ((l.allowKey s.broken).emit (.scalar style s.text)).moveTo s.after

/-- Emits a block scalar. -/
def block? (style : ScalarStyle) (l : Layout) : Option Layout := do
  let l ← l.dropKey?
  let s ← readBlock? (style == .literal) l.indent l.cursor
  return ((l.allowKey true).emit (.scalar style s.text)).moveTo s.after

/-- Whether a plain scalar may start with a character, given the one behind it. -/
def startsPlain (inFlow : Bool) (x : Char) (next : Option Char) : Bool :=
  !(isBlank x || isBreak x || "-?:,[]\x7b\x7d#&*!|>'\"%@`".contains x) ||
    (x == '-' && !next.any isBlank) ||
    (!inFlow && (x == '?' || x == ':') && !endsWord next)

/-- Emits the token that starts with a character. -/
def start? (x : Char) (l : Layout) : Option Layout :=
  let c := l.cursor
  let wordEnds := endsWord (c.ahead? 1)
  if c.column == 0 && x == '%' then l.topLevel? readDirective?
  else if c.seesMarker '-' then l.topLevel? fun c => some (.documentStart, c.advance 3)
  else if c.seesMarker '.' then l.topLevel? fun c => some (.documentEnd, c.advance 3)
  else if x == '[' then l.openFlow? .flowSequenceStart
  else if x == '\x7b' then l.openFlow? .flowMappingStart
  else if x == ']' then l.closeFlow? .flowSequenceEnd
  else if x == '\x7d' then l.closeFlow? .flowMappingEnd
  else if x == ',' then l.separate?
  else if x == '-' && wordEnds then l.startEntry?
  else if x == '?' && (l.inFlow || wordEnds) then l.startKey?
  else if x == ':' && (l.inFlow || wordEnds) then l.startValue?
  else if x == '*' then
    l.property? fun c => (readAnchorName? c).map fun (name, c) => (.alias name, c)
  else if x == '&' then
    l.property? fun c => (readAnchorName? c).map fun (name, c) => (.anchor name, c)
  else if x == '!' then l.property? (readTag? l.inFlow)
  else if x == '|' && !l.inFlow then l.block? .literal
  else if x == '>' && !l.inFlow then l.block? .folded
  else if x == '\'' then l.scalar? .singleQuoted (readQuoted? '\'')
  else if x == '"' then l.scalar? .doubleQuoted (readQuoted? '"')
  else if startsPlain l.inFlow x (c.ahead? 1) then
    l.scalar? .plain (readPlain? l.inFlow l.indent)
  else none

/-- Ends the text. -/
def finish? (l : Layout) : Option Layout :=
  (l.unindentTo (-1)).dropKey?

/-- Reads a text to its end. -/
def run? : Nat → Layout → Option Layout
  | 0, _ => none
  | fuel + 1, l => do
    let l ← (l.skipSpace (l.cursor.left + 1)).dropStaleKeys?
    let l := l.unindentTo l.cursor.column
    match l.cursor.here? with
    | none => l.finish?
    | some x => run? fuel (← l.start? x)

end Layout

/-- The tokens of a text. -/
def tokens? (text : String) : Option (List Token) :=
  if text.toList.all isAllowed then
    (Layout.run? (text.length + 1) (Layout.ofText text)).map fun l => l.tokens.reverse
  else none

end ModelGate.Yaml

import ModelGate.Yaml.Cursor

/-!
# Scalars of a YAML text

Plain, quoted and block scalars. Line breaks inside the first two kinds are folded: a single one
becomes a space, and of several the first is dropped.
-/

namespace ModelGate.Yaml

/-- What stands between two words of a scalar: blanks of one line, or line breaks. -/
structure Gap where
  blanks : String
  firstBreak : String
  moreBreaks : String
  broken : Bool

namespace Gap

/-- No gap. -/
def none : Gap :=
  ⟨"", "", "", false⟩

/-- What is left of a gap in the text of the scalar. -/
def text (g : Gap) : String :=
  if g.broken then
    if g.firstBreak == "\n" then (if g.moreBreaks.isEmpty then " " else g.moreBreaks)
    else g.firstBreak ++ g.moreBreaks
  else g.blanks

/-- Extends a gap over all blanks and breaks. Behind a line break a tab must not stand before a
given column. -/
def extend? (tabFloor : Option Int) : Nat → Gap → Cursor → Option (Gap × Cursor)
  | 0, g, c => some (g, c)
  | fuel + 1, g, c =>
    match c.here? with
    | Option.none => some (g, c)
    | some x =>
      if isBlank x then
        if g.broken then
          if x == '\t' && tabFloor.any fun floor => decide ((c.column : Int) < floor) then
            Option.none
          else extend? tabFloor fuel g (c.advance 1)
        else extend? tabFloor fuel { g with blanks := g.blanks.push x } (c.advance 1)
      else if isBreak x then
        let (text, c) := c.takeBreak
        if g.broken then
          extend? tabFloor fuel { g with moreBreaks := g.moreBreaks ++ text } c
        else extend? tabFloor fuel ⟨"", text, g.moreBreaks, true⟩ c
      else some (g, c)

end Gap

/-- The characters of a plain scalar up to the next blank, break or indicator that ends it. -/
def plainWord? (inFlow : Bool) : List Char → Option (List Char)
  | [] => some []
  | x :: rest =>
    if isBlank x || isBreak x then some []
    else if inFlow && x == ':' && rest.head?.any fun y => isFlowIndicator y || y == '?' then none
    else if (x == ':' && endsWord rest.head?) || (inFlow && isFlowIndicator x) then some []
    else (plainWord? inFlow rest).map (x :: ·)

/-- A scalar with the position behind it; `broken` tells whether a line break follows it. -/
structure ScalarRead where
  text : String
  broken : Bool
  after : Cursor

/-- Reads the words of a plain scalar. -/
def plainWords? (inFlow : Bool) (floor : Int) : Nat → String → Gap → Cursor → Option ScalarRead
  | 0, text, gap, c => some ⟨text, gap.broken, c⟩
  | fuel + 1, text, gap, c => do
    if c.seesDocumentMarker || c.sees '#' then return ⟨text, gap.broken, c⟩
    let word ← plainWord? inFlow c.rest
    let (text, gap) :=
      if word.isEmpty then (text, gap) else (text ++ gap.text ++ String.ofList word, Gap.none)
    let c := c.advance word.length
    if !(c.atBlank || c.atBreak) then return ⟨text, gap.broken, c⟩
    let (gap, c) ← gap.extend? (some floor) (c.left + 1) c
    if !inFlow && decide ((c.column : Int) < floor) then return ⟨text, gap.broken, c⟩
    plainWords? inFlow floor fuel text gap c

/-- Reads a plain scalar. In a block it ends before a line that is not indented more than the
block around it. -/
def readPlain? (inFlow : Bool) (indent : Int) (c : Cursor) : Option ScalarRead :=
  plainWords? inFlow (indent + 1) (c.left + 1) "" Gap.none c

/-- The value of a hexadecimal digit. -/
def hexDigit? (c : Char) : Option Nat :=
  if '0' ≤ c && c ≤ '9' then some (c.toNat - 48)
  else if 'a' ≤ c && c ≤ 'f' then some (c.toNat - 87)
  else if 'A' ≤ c && c ≤ 'F' then some (c.toNat - 55)
  else none

/-- The value of a run of hexadecimal digits of a given length. -/
def hexNumber? (count : Nat) (cs : List Char) : Option Nat :=
  if (cs.take count).length < count then none
  else (cs.take count).foldlM (fun n c => (hexDigit? c).map (n * 16 + ·)) 0

/-- The character that an escape letter stands for in a double-quoted scalar. -/
def shortEscape? (c : Char) : Option Char :=
  match c with
  | '0' => some '\x00'
  | 'a' => some '\x07'
  | 'b' => some '\x08'
  | 't' => some '\t'
  | '\t' => some '\t'
  | 'n' => some '\n'
  | 'v' => some '\x0b'
  | 'f' => some '\x0c'
  | 'r' => some '\r'
  | 'e' => some '\x1b'
  | ' ' => some ' '
  | '"' => some '"'
  | '/' => some '/'
  | '\\' => some '\\'
  | 'N' => some '\u0085'
  | '_' => some '\u00a0'
  | 'L' => some '\u2028'
  | 'P' => some '\u2029'
  | _ => none

/-- The number of digits behind the letter of a numbered escape. -/
def numberedEscape? (c : Char) : Option Nat :=
  match c with
  | 'x' => some 2
  | 'u' => some 4
  | 'U' => some 8
  | _ => none

/-- The character of an escape and the number of characters it takes up behind the backslash. -/
def escape? : List Char → Option (Char × Nat)
  | [] => none
  | x :: rest =>
    match shortEscape? x with
    | some c => some (c, 1)
    | none => do
      let count ← numberedEscape? x
      let code ← hexNumber? count rest
      if (0xD800 ≤ code ∧ code ≤ 0xDFFF) ∨ 0x10FFFF < code then none
      else some (Char.ofNat code, count + 1)

/-- Reads a word of a quoted scalar onto the text before it. A backslash at the end of a line
joins the lines; the result tells whether one was met. -/
def quotedWord? (quote : Char) : Nat → String → Cursor → Option (String × Bool × Cursor)
  | 0, text, c => some (text, false, c)
  | fuel + 1, text, c =>
    match c.rest with
    | [] => some (text, false, c)
    | x :: rest =>
      if isBlank x || isBreak x then some (text, false, c)
      else if quote == '\'' && x == '\'' && rest.head? == some '\'' then
        quotedWord? quote fuel (text.push '\'') (c.advance 2)
      else if x == quote then some (text, false, c)
      else if quote == '"' && x == '\\' then
        if rest.head?.any isBreak then some (text, true, (c.advance 1).takeBreak.2)
        else
          match escape? rest with
          | none => none
          | some (e, used) => quotedWord? quote fuel (text.push e) (c.advance (used + 1))
      else quotedWord? quote fuel (text.push x) (c.advance 1)

/-- Reads the words of a quoted scalar up to the closing quote. -/
def quotedWords? (quote : Char) : Nat → String → Cursor → Option ScalarRead
  | 0, _, _ => none
  | fuel + 1, text, c => do
    if c.seesDocumentMarker || c.atEnd then none
    let (text, joined, c) ← quotedWord? quote (c.left + 1) text c
    if c.sees quote then return ⟨text, false, c.advance 1⟩
    let (gap, c) ← Gap.extend? none (c.left + 1) { Gap.none with broken := joined } c
    quotedWords? quote fuel (text ++ gap.text) c

/-- Reads a quoted scalar that starts with the given quote. -/
def readQuoted? (quote : Char) (c : Cursor) : Option ScalarRead :=
  quotedWords? quote (c.left + 1) "" (c.advance 1)

/-- What happens to the line breaks at the end of a block scalar. -/
inductive Chomping where
  | strip
  | clip
  | keep
  deriving DecidableEq

/-- Reads the chomping indicator of a block scalar, if there is one. -/
def readChomping (c : Cursor) : Option Chomping × Cursor :=
  if c.sees '+' then (some .keep, c.advance 1)
  else if c.sees '-' then (some .strip, c.advance 1)
  else (none, c)

/-- Reads the indentation indicator of a block scalar, if there is one; it must not be zero. -/
def readIncrement? (c : Cursor) : Option (Option Nat × Cursor) :=
  match c.here? with
  | some x =>
    if x == '0' then none
    else if x.isDigit then some (some (x.toNat - 48), c.advance 1)
    else some (none, c)
  | none => some (none, c)

/-- Reads the two indicators in either order. -/
def readBlockHeader? (c : Cursor) : Option (Chomping × Option Nat × Cursor) := do
  let (chomping, c) := readChomping c
  let (increment, c) ← readIncrement? c
  match chomping, increment with
  | none, some n =>
    let (chomping, c) := readChomping c
    return (chomping.getD .clip, some n, c)
  | _, _ => return (chomping.getD .clip, increment, c)

/-- Reads indentation and empty lines. While the indentation of a block scalar is not known, the
result holds the greatest column reached. -/
def blockBreaks? (indent : Option Nat) :
    Nat → Nat → String → Cursor → Option (Nat × String × Cursor)
  | 0, deepest, breaks, c => some (deepest, breaks, c)
  | fuel + 1, deepest, breaks, c =>
    let room := match indent with
      | none => c.left
      | some n => n - c.column
    let c := c.advance ((c.rest.takeWhile (· == ' ')).length.min room)
    let deepest := max deepest c.column
    if c.sees '\t' && (match indent with | none => true | some n => decide (c.column < n)) then none
    else if c.atBreak then
      let (text, c) := c.takeBreak
      blockBreaks? indent fuel deepest (breaks ++ text) c
    else some (deepest, breaks, c)

/-- Reads the lines of a block scalar. `lead` is the break before the line, `blankLead` tells
whether the line before starts with a blank. -/
def blockLines (literal : Bool) (indent : Nat) :
    Nat → String → String → String → Bool → Cursor → Option (String × String × String × Cursor)
  | 0, text, lead, breaks, _, c => some (text, lead, breaks, c)
  | fuel + 1, text, lead, breaks, blankLead, c =>
    if c.column == indent && !c.atEnd then
      let blank := c.atBlank
      let joint :=
        if !literal && lead == "\n" && !blankLead && !blank then
          if breaks.isEmpty then " " else ""
        else lead
      let line := c.rest.takeWhile fun x => !isBreak x
      let text := text ++ joint ++ breaks ++ String.ofList line
      let (lead, c) := (c.advance line.length).takeBreak
      match blockBreaks? (some indent) (c.left + 1) 0 "" c with
      | none => none
      | some (_, breaks, c) => blockLines literal indent fuel text lead breaks blank c
    else some (text, lead, breaks, c)

/-- Reads a block scalar behind its indicator. Unless its header says how far it is indented, its
first line that is not empty does. -/
def readBlock? (literal : Bool) (indent : Int) (c : Cursor) : Option ScalarRead := do
  let (chomping, increment, c) ← readBlockHeader? (c.advance 1)
  let c := c.skipWhile isBlank
  let c := if c.sees '#' then c.skipToBreak else c
  if !(c.atEnd || c.atBreak) then none
  let c := c.takeBreak.2
  let given := increment.map fun n => indent.toNat + n
  let (deepest, breaks, c) ← blockBreaks? given (c.left + 1) 0 "" c
  let width := given.getD (max deepest (max (indent + 1).toNat 1))
  let (text, lead, breaks, c) ← blockLines literal width (c.left + 1) "" "" breaks false c
  let lead := if chomping == .strip then "" else lead
  let breaks := if chomping == .keep then breaks else ""
  return ⟨text ++ lead ++ breaks, false, c⟩

end ModelGate.Yaml

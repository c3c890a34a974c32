import ModelGate.Text.Whitespace

/-!
# Log filters

Which events are logged: a list of directives between commas, each a level, or a target or a span
with a level.
-/

namespace ModelGate.Log

/-- Whether a text is a level: a name in any case, or a number up to five. -/
def isLevel (cs : List Char) : Bool :=
  let digits := match cs with
    | '+' :: rest => rest
    | cs => cs
  let number := digits.foldl (fun n c => n * 10 + (c.toNat - 48)) 0
  if !digits.isEmpty && digits.all Char.isDigit then number ≤ 5
  else ["off", "error", "warn", "info", "debug", "trace"].contains
    (String.ofList (cs.map Char.toLower))

/-- Where a directive stands: at its start, in a name, in a span or one of its fields, behind the
fields, behind the span, or in its level. -/
inductive Place where
  | start
  | name
  | span
  | field (empty : Bool)
  | fields
  | target
  | level (text : List Char)
  deriving DecidableEq

/-- The place behind one more character. -/
def Place.next? : Place → Char → Option Place
  | .start, c =>
    if c == '[' then some .span
    else if c.isAlphanum || c == '-' || c == ':' || c == '_' || 0x80 ≤ c.toNat then some .name
    else none
  | .name, c => some (if c == '=' then .level [] else if c == '[' then .span else .name)
  | .span, c => some (if c == ']' then .target else if c == '\x7b' then .field true else .span)
  | .field empty, c =>
    if c == '\x7d' then (if empty then none else some .fields) else some (.field false)
  | .fields, c => if c == ']' then some .target else none
  | .target, c => if c == '=' then some (.level []) else none
  | .level text, c => some (.level (text ++ [c]))

/-- Whether a directive may end at a place. A level may be left out. -/
def Place.isEnd : Place → Bool
  | .name | .target => true
  | .level text => text.isEmpty || isLevel text
  | _ => false

/-- Whether a text is a directive; blanks around it do not count. -/
def isDirective (cs : List Char) : Bool :=
  let trimmed := ((cs.dropWhile isWhitespaceChar).reverse.dropWhile isWhitespaceChar).reverse
  (trimmed.foldlM Place.next? .start).any Place.isEnd

/-- The parts of a text between commas. -/
def parts : List Char → List (List Char)
  | [] => [[]]
  | c :: rest =>
    match parts rest with
    | [] => [[c]]
    | part :: more => if c == ',' then [] :: part :: more else (c :: part) :: more

/-- Whether a text is a filter; empty directives do not count. -/
def isFilter (text : String) : Bool :=
  ((parts text.toList).filter (!·.isEmpty)).all isDirective

end ModelGate.Log

import ModelGate.Json.Basic
import ModelGate.Json.Token

/-!
# Written JSON

The tree of a JSON text before its strings and numbers are read. Only the parts of a text that
somebody asks for have to be readable: a string with stray bytes or with half a surrogate pair
is harmless as long as nobody reads it.
-/

namespace ModelGate.Json

/-- A JSON value whose strings and numbers are still in their written form. -/
inductive Written where
  | null
  | bool (value : Bool)
  | number (numeral : Numeral)
  | str (raw : List Glyph)
  | arr (items : List Written)
  | obj (members : List (List Glyph × Written))
  deriving Inhabited

/-- A list or an object part way through; what it holds so far stands in reverse. -/
inductive Frame where
  | list (items : List Written)
  | object (members : List (List Glyph × Written))
  | member (members : List (List Glyph × Written)) (name : List Glyph)

/-- What may come next in a text. -/
inductive Expected where
  | value
  | itemOrClose
  | nameOrClose
  | name
  | colon (name : List Glyph)
  | commaOrClose

/-- How far a text is read. -/
inductive Progress where
  | within (frames : List Frame) (expected : Expected)
  | complete (value : Written)

namespace Progress

/-- Gives a value to the innermost list or object. -/
def deliver (value : Written) : List Frame → Option Progress
  | [] => some (.complete value)
  | .list items :: frames => some (.within (.list (value :: items) :: frames) .commaOrClose)
  | .member members name :: frames =>
    some (.within (.object ((name, value) :: members) :: frames) .commaOrClose)
  | .object _ :: _ => none

/-- Closes the innermost list or object and gives it to the one around it. -/
def close (frames : List Frame) (list : Bool) : Option Progress :=
  match list, frames with
  | true, .list items :: frames => deliver (.arr items.reverse) frames
  | false, .object members :: frames => deliver (.obj members.reverse) frames
  | _, _ => none

/-- Takes a token where a value may stand. -/
def takeValue (frames : List Frame) : Token → Option Progress
  | .null => deliver .null frames
  | .bool value => deliver (.bool value) frames
  | .number numeral => deliver (.number numeral) frames
  | .str raw => deliver (.str raw) frames
  | .openList => some (.within (.list [] :: frames) .itemOrClose)
  | .openObject => some (.within (.object [] :: frames) .nameOrClose)
  | _ => none

/-- Takes the name of a member. -/
def takeName (frames : List Frame) : Token → Option Progress
  | .str raw => some (.within frames (.colon raw))
  | _ => none

/-- Takes one token. -/
def next? : Progress → Token → Option Progress
  | .complete _, _ => none
  | .within frames .value, token => takeValue frames token
  | .within frames .itemOrClose, token =>
    match token with
    | .closeList => close frames true
    | _ => takeValue frames token
  | .within frames .nameOrClose, token =>
    match token with
    | .closeObject => close frames false
    | _ => takeName frames token
  | .within frames .name, token => takeName frames token
  | .within (.object members :: frames) (.colon name), .colon =>
    some (.within (.member members name :: frames) .value)
  | .within _ (.colon _), _ => none
  | .within frames .commaOrClose, token =>
    match frames, token with
    | .list _ :: _, .comma => some (.within frames .value)
    | .object _ :: _, .comma => some (.within frames .name)
    | _, .closeList => close frames true
    | _, .closeObject => close frames false
    | _, _ => none

end Progress

namespace Written

/-- The one value that a list of tokens is. -/
def ofTokens? (tokens : List Token) : Option Written :=
  match tokens.foldlM Progress.next? (.within [] .value) with
  | some (.complete value) => some value
  | _ => none

/-- The value of a whole text. -/
def ofGlyphs? (glyphs : List Glyph) : Option Written :=
  (tokens? glyphs).bind ofTokens?

/-- The value of a text that arrived as bytes. -/
def ofBytes? (bytes : List UInt8) : Option Written :=
  ofGlyphs? (Glyph.ofBytes bytes)

/-- The text of a written string, if it has one. -/
def decode? (raw : List Glyph) : Option String := do
  let cs ← Glyph.chars? raw
  match readString (cs ++ ['"']) with
  | .ok (text, []) => some (String.ofList text)
  | _ => none

/-- The text of a string. -/
def text? : Written → Option String
  | .str raw => decode? raw
  | _ => none

/-- The texts of a list of strings. -/
def texts? : Written → Option (List String)
  | .arr items => items.mapM text?
  | _ => none

/-- The value of a number without sign, fraction and exponent that is below a bound. -/
def natBelow? (bound : Nat) : Written → Option Nat
  | .number ⟨false, whole, [], none⟩ =>
    if decimalValue whole < bound then some (decimalValue whole) else none
  | _ => none

/-- The values of a record's fields: by name in an object, where every name must be readable and
no field may come twice, or by position in a list. -/
def fields? (names : List String) : Written → Option (List (Option Written))
  | .obj members => do
    let members ← members.mapM fun (raw, value) => return (← decode? raw, value)
    names.mapM fun name =>
      match members.filter fun member => member.1 == name with
      | [] => some none
      | [(_, value)] => some (some value)
      | _ => none
  | .arr items =>
    if items.length ≤ names.length then
      some (items.map some ++ List.replicate (names.length - items.length) none)
    else none
  | _ => none

end Written

/-- The value of a number: an integer if it is written as one and fits a signed or an unsigned
64-bit word. -/
def ofNumeral (x : Numeral) : Json :=
  let sign := if x.negative then "-" else ""
  let n := decimalValue x.whole
  match x.fraction, x.exponent with
  | [], none =>
    if x.negative then
      if 0 < n ∧ n ≤ 1 <<< 63 then .int (-n) else .decimal (sign ++ String.ofList x.whole)
    else if n < UInt64.size then .int n
    else .decimal (String.ofList x.whole)
  | fraction, exponent =>
    let point := if fraction.isEmpty then "" else "." ++ String.ofList fraction
    let power := match exponent with
      | none => ""
      | some (negative, digits) =>
        "e" ++ (if negative then "-" else "") ++ String.ofList digits
    .decimal (sign ++ String.ofList x.whole ++ point ++ power)


mutual

/-- The value of a written value whose strings can all be read. -/
def ofWritten? : Written → Option Json
  | .null => some .null
  | .bool value => some (.bool value)
  | .number numeral => some (ofNumeral numeral)
  | .str raw => (Written.decode? raw).map .str
  | .arr items => (ofWrittenItems? items).map .arr
  | .obj members => (ofWrittenMembers? members).map fun members =>
    .obj (members.foldl (fun done m => setMember m.1 m.2 done) [])

/-- The values of a list's items. -/
def ofWrittenItems? : List Written → Option (List Json)
  | [] => some []
  | item :: rest => do
    let value ← ofWritten? item
    let values ← ofWrittenItems? rest
    pure (value :: values)

/-- The members of an object, in the order in which they are written. -/
def ofWrittenMembers? : List (List Glyph × Written) → Option (List (String × Json))
  | [] => some []
  | (raw, value) :: rest => do
    let name ← Written.decode? raw
    let value ← ofWritten? value
    let members ← ofWrittenMembers? rest
    pure ((name, value) :: members)

end

/-- The value of a JSON text; the last of several members of one name counts. -/
def parse? (text : String) : Option Json :=
  (Written.ofGlyphs? (Glyph.ofText text)).bind ofWritten?

end ModelGate.Json

/-!
# JSON values

A JSON value as the rest of the library uses it: strings are decoded text, whole numbers are
integers, and the members of an object stand in the order in which they were given.
-/

namespace ModelGate

inductive Json where
  | null
  | bool (value : Bool)
  | int (value : Int)
  /-- A number with a fraction or an exponent, or one too large for an integer, as written. -/
  | decimal (text : String)
  | str (text : String)
  | arr (items : List Json)
  | obj (members : List (String × Json))
  deriving Inhabited

namespace Json

/-- The member of an object under a name; the first one counts. -/
def member? (name : String) : Json → Option Json
  | .obj members => members.lookup name
  | _ => none

/-- The text of a string. -/
def str? : Json → Option String
  | .str text => some text
  | _ => none

/-- The value of a whole number. -/
def int? : Json → Option Int
  | .int value => some value
  | _ => none

/-- The value of a truth value. -/
def bool? : Json → Option Bool
  | .bool value => some value
  | _ => none

/-- The items of a list. -/
def items? : Json → Option (List Json)
  | .arr items => some items
  | _ => none

/-- A list of strings. -/
def ofStrings (texts : List String) : Json :=
  .arr (texts.map .str)

/-- A string, or null when there is none. -/
def ofString? (text : Option String) : Json :=
  text.elim .null .str

/-- An object with one optional member. -/
def optional (name : String) (value : Option Json) : List (String × Json) :=
  value.elim [] fun v => [(name, v)]

/-- Replaces the value under a name where it stands, or adds it as the last member. -/
def setMember (name : String) (value : Json) : List (String × Json) → List (String × Json)
  | [] => [(name, value)]
  | (key, old) :: rest =>
    if key = name then (name, value) :: rest else (key, old) :: setMember name value rest

/-- An object with one member replaced or added; any other value becomes that object. -/
def withMember (name : String) (value : Json) : Json → Json
  | .obj members => .obj (setMember name value members)
  | _ => .obj [(name, value)]

end Json

end ModelGate

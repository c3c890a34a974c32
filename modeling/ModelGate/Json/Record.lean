import ModelGate.Json.Basic

/-!
# Records in JSON

Reading of values with a fixed set of fields. A record is an object, whose other members do not
count, or, for some types, a list of its fields in their order.
-/

namespace ModelGate.Json

/-- The fields of a record as they were given. -/
structure Record where
  members : List (String × Json)
  /-- Whether the fields have names, so that one that is left out may count as null. -/
  named : Bool

namespace Record

/-- The record that an object is. -/
def ofObject? : Json → Option Record
  | .obj members => some ⟨members, true⟩
  | _ => none

/-- The record that an object is, or a list of at most the given fields. -/
def of? (fields : List String) : Json → Option Record
  | .obj members => some ⟨members, true⟩
  | .arr items => if items.length ≤ fields.length then some ⟨fields.zip items, false⟩ else none
  | _ => none

/-- The value of a field that must be there. -/
def required {α : Type} (r : Record) (name : String) (read : Json → Option α) : Option α := do
  read (← r.members.lookup name)

/-- The value of a field, or a default when it is left out; null has to be readable. -/
def defaulted {α : Type} (r : Record) (name : String) (default : α) (read : Json → Option α) :
    Option α :=
  match r.members.lookup name with
  | none => some default
  | some value => read value

/-- The value of a field that may be null or left out. -/
def optional {α : Type} (r : Record) (name : String) (read : Json → Option α) :
    Option (Option α) :=
  match r.members.lookup name with
  | none => some none
  | some .null => some none
  | some value => (read value).map some

/-- The value of a field that may be null, and may be left out where fields have names. -/
def nullable {α : Type} (r : Record) (name : String) (read : Json → Option α) :
    Option (Option α) :=
  if r.named || (r.members.lookup name).isSome then r.optional name read else none

end Record

/-- A list whose items can all be read. -/
def list? {α : Type} (read : Json → Option α) : Json → Option (List α)
  | .arr items => items.mapM read
  | _ => none

/-- A list of strings. -/
def texts? : Json → Option (List String) :=
  list? str?

/-- An object whose values can all be read. -/
def map? {α : Type} (read : Json → Option α) : Json → Option (List (String × α))
  | .obj members => members.mapM fun (name, value) => (read value).map (name, ·)
  | _ => none

/-- An integer within a signed word of the given number of bits. -/
def signed? (bits : Nat) : Json → Option Int
  | .int n =>
    let half : Nat := 1 <<< (bits - 1)
    if -(half : Int) ≤ n ∧ n < half then some n else none
  | _ => none

/-- Any value. -/
def any? (value : Json) : Option Json :=
  some value

end ModelGate.Json

import ModelGate.Json.Basic

/-!
# Writing JSON

The compact text of a value: no blanks, members in their order, and in strings only the quote,
the backslash and the control characters escaped.
-/

namespace ModelGate.Json

/-- The lower-case hexadecimal digit of a number below sixteen. -/
def hexDigit (n : Nat) : Char :=
  if n < 10 then Char.ofNat (48 + n) else Char.ofNat (87 + n)

/-- The written form of one character inside a string. -/
def escapeChar (c : Char) : List Char :=
  match c with
  | '"' => ['\\', '"']
  | '\\' => ['\\', '\\']
  | '\n' => ['\\', 'n']
  | '\r' => ['\\', 'r']
  | '\t' => ['\\', 't']
  | '\x08' => ['\\', 'b']
  | '\x0c' => ['\\', 'f']
  | c =>
    if c.toNat < 32 then
      ['\\', 'u', '0', '0', hexDigit (c.toNat / 16), hexDigit (c.toNat % 16)]
    else [c]

/-- A string between its quotes. -/
def quoteChars (cs : List Char) : List Char :=
  '"' :: (cs.flatMap escapeChar ++ ['"'])

/-- Joins written parts by commas. -/
def commaSeparated : List (List Char) → List Char
  | [] => []
  | [part] => part
  | part :: rest => part ++ ',' :: commaSeparated rest

mutual

/-- The characters of a value's text. -/
def renderChars : Json → List Char
  | .null => "null".toList
  | .bool true => "true".toList
  | .bool false => "false".toList
  | .int value => (toString value).toList
  | .decimal text => text.toList
  | .str text => quoteChars text.toList
  | .arr items => '[' :: (commaSeparated (renderItems items) ++ [']'])
  | .obj members => '{' :: (commaSeparated (renderMembers members) ++ ['}'])

/-- The texts of the items of a list. -/
def renderItems : List Json → List (List Char)
  | [] => []
  | item :: rest => renderChars item :: renderItems rest

/-- The texts of the members of an object. -/
def renderMembers : List (String × Json) → List (List Char)
  | [] => []
  | (name, value) :: rest =>
    (quoteChars name.toList ++ ':' :: renderChars value) :: renderMembers rest

end

def render (value : Json) : String :=
  String.ofList value.renderChars

end ModelGate.Json

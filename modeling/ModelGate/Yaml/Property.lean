import ModelGate.Yaml.Scalar
import ModelGate.Yaml.Token

/-!
# Anchors, aliases, tags and directives

Readers for the parts of a YAML text that say something about a node or about a document.
-/

namespace ModelGate.Yaml

/-- Whether the character behind a name ends the name of an anchor or an alias. -/
def endsAnchor : Option Char → Bool
  | none => true
  | some c => isBlank c || isBreak c || "?:,]\x7d%@`".contains c

/-- Reads the name of an anchor or an alias behind its indicator. -/
def readAnchorName? (c : Cursor) : Option (String × Cursor) :=
  let c := c.advance 1
  let name := c.rest.takeWhile isWordChar
  let after := c.advance name.length
  if name.isEmpty || !endsAnchor after.here? then none
  else some (String.ofList name, after)

/-- Reads the handle of a tag: exclamation marks around a name that may be missing. In a
directive the second mark may be missing only from the primary handle. -/
def readTagHandle? (inDirective : Bool) (c : Cursor) : Option (String × Cursor) :=
  if !c.sees '!' then none
  else
    let name := (c.advance 1).rest.takeWhile isWordChar
    let after := c.advance (name.length + 1)
    if after.sees '!' then some ("!" ++ String.ofList name ++ "!", after.advance 1)
    else if inDirective && !name.isEmpty then none
    else some ("!" ++ String.ofList name, after)

/-- Whether a character may stand in the text of a tag. Only a tag in angle brackets, or the
meaning of a handle, may hold commas and square brackets. -/
def isTagChar (verbatim : Bool) (c : Char) : Bool :=
  isWordChar c || ";/?:@&=+$.%!~*'()".contains c || (verbatim && ",[]".contains c)

/-- The number of bytes of a UTF-8 sequence by its first byte. -/
def sequenceWidth? (octet : Nat) : Option Nat :=
  if octet < 0x80 then some 1
  else if 0xC0 ≤ octet && octet < 0xE0 then some 2
  else if 0xE0 ≤ octet && octet < 0xF0 then some 3
  else if 0xF0 ≤ octet && octet < 0xF8 then some 4
  else none

/-- Reads one escaped octet of a tag. -/
def readOctet? (c : Cursor) : Option (Nat × Cursor) :=
  match c.rest with
  | '%' :: a :: b :: _ => do
    let a ← hexDigit? a
    let b ← hexDigit? b
    return (a * 16 + b, c.advance 3)
  | _ => none

/-- Reads the octets of a sequence behind the first one. -/
def readTrailing? : Nat → Nat → Cursor → Option (Nat × Cursor)
  | 0, code, c => some (code, c)
  | count + 1, code, c => do
    let (octet, c) ← readOctet? c
    if 0x80 ≤ octet && octet < 0xC0 then readTrailing? count (code * 64 + (octet - 0x80)) c
    else none

/-- Reads one character of a tag that is written as escaped octets. -/
def readEscapedChar? (c : Cursor) : Option (Char × Cursor) := do
  let (lead, c) ← readOctet? c
  let width ← sequenceWidth? lead
  let bits := match width with
    | 1 => lead
    | 2 => lead % 32
    | 3 => lead % 16
    | _ => lead % 8
  let (code, c) ← readTrailing? (width - 1) bits c
  return (Char.ofNat code, c)

/-- Reads the text of a tag onto what comes before it. -/
def tagText? (verbatim : Bool) : Nat → String → Cursor → Option (String × Cursor)
  | 0, text, c => some (text, c)
  | fuel + 1, text, c =>
    match c.here? with
    | some x =>
      if x == '%' then
        match readEscapedChar? c with
        | some (x, c) => tagText? verbatim fuel (text.push x) c
        | none => none
      else if isTagChar verbatim x then tagText? verbatim fuel (text.push x) (c.advance 1)
      else some (text, c)
    | none => some (text, c)

/-- Reads the text of a tag, which must not be empty. -/
def readTagText? (verbatim : Bool) (c : Cursor) : Option (String × Cursor) := do
  let (text, after) ← tagText? verbatim (c.left + 1) "" c
  if after.index = c.index then none else return (text, after)

/-- Reads a tag as its handle and its suffix. -/
def readTag? (inFlow : Bool) (c : Cursor) : Option (Token × Cursor) := do
  let (token, c) ←
    if c.ahead? 1 == some '<' then do
      let (text, c) ← readTagText? true (c.advance 2)
      if c.sees '>' then some (Token.tag "" text, c.advance 1) else none
    else do
      let (handle, after) ← readTagHandle? false c
      if 1 < handle.length && handle.endsWith "!" then
        let (suffix, after) ← readTagText? false after
        some (Token.tag handle suffix, after)
      else
        let head := String.ofList (handle.toList.drop 1)
        let (suffix, after) ← tagText? false (after.left + 1) head after
        some (if suffix.isEmpty then Token.tag "" "!" else Token.tag "!" suffix, after)
  if endsWord c.here? || (inFlow && c.sees ',') then return (token, c) else none

/-- Reads one number of a version: up to nine digits. -/
def readVersionNumber? (c : Cursor) : Option (Nat × Cursor) :=
  let digits := c.rest.takeWhile Char.isDigit
  if digits.isEmpty || 9 < digits.length then none
  else some (digits.foldl (fun n d => n * 10 + (d.toNat - 48)) 0, c.advance digits.length)

/-- Reads the values of a directive behind its name. -/
def readDirectiveValue? (name : String) (c : Cursor) : Option (Token × Cursor) :=
  let c := c.skipWhile isBlank
  if name = "YAML" then do
    let (major, c) ← readVersionNumber? c
    if !c.sees '.' then none
    let (minor, c) ← readVersionNumber? (c.advance 1)
    return (.versionDirective major minor, c)
  else if name = "TAG" then do
    let (handle, c) ← readTagHandle? true c
    if !c.atBlank then none
    let (meaning, c) ← readTagText? true (c.skipWhile isBlank)
    if endsWord c.here? then return (.tagDirective handle meaning, c) else none
  else none

/-- Reads a directive with the rest of its line. -/
def readDirective? (c : Cursor) : Option (Token × Cursor) := do
  let c := c.advance 1
  let name := c.rest.takeWhile isWordChar
  let c := c.advance name.length
  if name.isEmpty || !endsWord c.here? then none
  let (token, c) ← readDirectiveValue? (String.ofList name) c
  let c := c.skipWhile isBlank
  let c := if c.sees '#' then c.skipToBreak else c
  if c.atEnd || c.atBreak then return (token, c.takeBreak.2) else none

end ModelGate.Yaml

import ModelGate.Text.Whitespace
import ModelGate.Tier.Mapping
import ModelGate.Yaml.Node

/-!
# Tier documents

A mapping is configured by a YAML list of declarations. A tier shows its display name or else its
description, and its own name when that text is empty or missing.
-/

namespace ModelGate

open Yaml (Node)

/-- One declaration of a tier document. -/
structure TierDeclaration where
  name : String
  displayName : Option String
  description : Option String
  level : Nat
  groups : List String
  deriving DecidableEq, Repr

namespace TierDeclaration

/-- The name under which a declared tier is shown. -/
def shownName (d : TierDeclaration) : String :=
  ((d.displayName.or d.description).filter (· != "")).getD d.name

/-- The entry that a declaration adds to a mapping. -/
def entry (d : TierDeclaration) : TierEntry :=
  ⟨⟨d.name, d.shownName, d.level⟩, d.groups⟩

end TierDeclaration

/-- Why a document gives no mapping. -/
inductive TierDocumentError where
  | invalidYaml
  | mapping (error : TierMappingError)
  deriving DecidableEq, Repr

def TierDocumentError.message : TierDocumentError → String
  | .invalidYaml => "invalid tiers YAML"
  | .mapping error => error.message

namespace TierDocument

/-- The nodes that the aliases of a document refer to. -/
abbrev Anchors := List (Nat × Node)

/-- The text of a scalar. -/
def text? (anchors : Anchors) (node : Node) : Option String :=
  match node.follow anchors with
  | .scalar _ _ _ text => some text
  | _ => none

def isNull (text : String) : Bool :=
  text == "~" || text == "null" || text == "Null" || text == "NULL"

/-- The text of a scalar that may be null. A plain scalar is null if it is empty or spelled so and
has no tag; one that is tagged as null must be spelled so. -/
def optionalText? (anchors : Anchors) (node : Node) : Option (Option String) :=
  match node.follow anchors with
  | .scalar _ tag style text =>
    if style != .plain then some (some text)
    else
      match tag with
      | some tag =>
        if tag == "tag:yaml.org,2002:null" then (if isNull text then some none else none)
        else some (some text)
      | none => if text.isEmpty || isNull text then some none else some (some text)
  | _ => none

/-- The value of a digit in a base up to sixteen. -/
def digitIn? (base : Nat) (c : Char) : Option Nat :=
  (Yaml.hexDigit? c).filter fun n => decide (n < base)

/-- The value of a run of at least one digit. -/
def numberIn? (base : Nat) (digits : List Char) : Option Nat :=
  if digits.isEmpty then none
  else digits.foldlM (fun n c => (digitIn? base c).map (n * base + ·)) 0

/-- The value of the text of a number: decimal without leading zeros, or with one of the marks of
the bases 16, 8 and 2; a plus sign may stand in front. -/
def number? (text : String) : Option Nat :=
  let digits := match text.toList with
    | '+' :: rest => rest
    | cs => cs
  match digits with
  | '0' :: 'x' :: rest => numberIn? 16 rest
  | '0' :: 'o' :: rest => numberIn? 8 rest
  | '0' :: 'b' :: rest => numberIn? 2 rest
  | '0' :: _ :: _ => none
  | digits => numberIn? 10 digits

/-- The level that a scalar gives: it must fit 32 bits. -/
def level? (anchors : Anchors) (node : Node) : Option Nat :=
  match node.follow anchors with
  | .scalar _ tag style text =>
    if style == .plain || (style == .literal && tag == some "tag:yaml.org,2002:int") then
      (number? text).filter fun n => decide (n < UInt32.size)
    else none
  | _ => none

/-- The items of a sequence; a value that is left out has none. -/
def items? (anchors : Anchors) (node : Node) : Option (List Node) :=
  match node.follow anchors with
  | .sequence _ items => some items
  | .scalar _ _ .plain "" => some []
  | _ => none

/-- The texts of a sequence of scalars. -/
def texts? (anchors : Anchors) (node : Node) : Option (List String) := do
  (← items? anchors node).mapM (text? anchors)

/-- The members of a mapping by the text of their keys. -/
def members? (anchors : Anchors) (node : Node) : Option (List (String × Node)) :=
  match node.follow anchors with
  | .mapping _ pairs => pairs.mapM fun (key, value) => return (← text? anchors key, value)
  | _ => none

/-- The value of a member, which must not come twice. -/
def member? (members : List (String × Node)) (name : String) : Option (Option Node) :=
  match members.filter fun member => member.1 == name with
  | [] => some none
  | [(_, value)] => some (some value)
  | _ => none

/-- The declaration that a mapping gives. -/
def declaration? (anchors : Anchors) (node : Node) : Option TierDeclaration := do
  let members ← members? anchors node
  let name ← text? anchors (← (← member? members "name"))
  let displayName ← (← member? members "displayName").elim (some none) (optionalText? anchors)
  let description ← (← member? members "description").elim (some none) (optionalText? anchors)
  let level ← level? anchors (← (← member? members "level"))
  let groups ← (← member? members "groups").elim (some []) (texts? anchors)
  return ⟨name, displayName, description, level, groups⟩

/-- The declarations of a document. -/
def declarations? (text : String) : Option (List TierDeclaration) := do
  match ← Node.parse? text with
  | none => return []
  | some root =>
    let anchors := root.anchored
    (← items? anchors root).mapM (declaration? anchors)

end TierDocument

/-- The mapping of a list of declarations. -/
def TierMapping.ofDeclarations (declarations : List TierDeclaration) :
    Except TierMappingError TierMapping :=
  ofEntries (declarations.map TierDeclaration.entry)

/-- The mapping that a document configures; a blank document configures the empty one. -/
def TierMapping.ofDocument (text : String) : Except TierDocumentError TierMapping :=
  if isBlankText text then .ok .empty
  else
    match TierDocument.declarations? text with
    | none => .error .invalidYaml
    | some declarations =>
      match ofDeclarations declarations with
      | .error error => .error (.mapping error)
      | .ok mapping => .ok mapping

end ModelGate

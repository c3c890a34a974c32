import ModelGate.Yaml.Layout

/-!
# Nodes of a YAML document

The tree that the tokens of a text stand for. Anchors are numbered by how many names were in use
when they were met, and an alias refers to the last node that got its number.
-/

namespace ModelGate.Yaml

inductive Node where
  | scalar (anchor : Option Nat) (tag : Option String) (style : ScalarStyle) (text : String)
  | sequence (anchor : Option Nat) (items : List Node)
  | mapping (anchor : Option Nat) (pairs : List (Node × Node))
  | alias (target : Nat)
  deriving Inhabited

namespace Node

def empty : Node :=
  .scalar none none .plain ""

/-- What is left to read of a document, the numbers of its anchors and the meanings of its tag
handles. -/
structure Reading where
  tokens : List Token
  anchors : List (String × Nat)
  handles : List (String × String)

/-- A step that reads from the front of the tokens, or fails. -/
abbrev Reader := StateT Reading Option

/-- The next token, which stays. -/
def peek : Reader (Option Token) := do
  return (← get).tokens.head?

/-- Drops the next token. -/
def skip : Reader Unit :=
  modify fun r => { r with tokens := r.tokens.drop 1 }

/-- Drops the next token if it is a given one. -/
def skipIf (token : Token) : Reader Bool := do
  if (← peek) == some token then
    skip
    return true
  return false

/-- Whether the next token is one of some. -/
def sees (tokens : List Token) : Reader Bool := do
  return (← peek).any tokens.contains

/-- Numbers an anchor by the names in use so far. -/
def numberAnchor (name : String) : Reader Nat := do
  let r ← get
  let number := r.anchors.length
  set { r with anchors := (name, number) :: r.anchors.filter (·.1 != name) }
  return number

/-- The full text of a tag. -/
def resolveTag (handle suffix : String) : Reader String := do
  if handle.isEmpty then return suffix
  match (← get).handles.lookup handle with
  | some meaning => return meaning ++ suffix
  | none => failure

/-- Reads the name of an anchor, if there is one. -/
def anchorName? : Reader (Option String) := do
  match ← peek with
  | some (.anchor name) => skip; return some name
  | _ => return none

/-- Reads a tag, if there is one. -/
def tag? : Reader (Option String) := do
  match ← peek with
  | some (.tag handle suffix) => skip; return some (← resolveTag handle suffix)
  | _ => return none

/-- Reads the anchor and the tag of a node in either order. -/
def properties? : Reader (Option Nat × Option String) := do
  let before ← anchorName?
  let tag ← tag?
  let name ← if before.isSome || tag.isNone then pure before else anchorName?
  let number ← name.mapM numberAnchor
  return (number, tag)

mutual

/-- Reads a node. `inBlock` admits block collections, `indentless` a sequence that is not indented
more than the mapping around it. -/
def node : Nat → Bool → Bool → Reader Node
  | 0, _, _ => failure
  | fuel + 1, inBlock, indentless => do
    if let some (.alias name) ← peek then
      skip
      match (← get).anchors.lookup name with
      | some number => return .alias number
      | none => failure
    let (anchor, tag) ← properties?
    match ← peek with
    | some (.scalar style text) =>
      skip
      let tag := if tag == some "!" then none else tag
      return .scalar anchor tag style text
    | some .flowSequenceStart => skip; return .sequence anchor (← flowItems fuel true)
    | some .flowMappingStart => skip; return .mapping anchor (← flowPairs fuel true)
    | some .blockEntry =>
      if indentless then return .sequence anchor (← indentlessItems fuel)
      else orEmpty anchor tag
    | some .blockSequenceStart =>
      if inBlock then skip; return .sequence anchor (← blockItems fuel)
      else orEmpty anchor tag
    | some .blockMappingStart =>
      if inBlock then skip; return .mapping anchor (← blockPairs fuel)
      else orEmpty anchor tag
    | _ => orEmpty anchor tag

/-- A node without content, which needs an anchor or a tag. -/
def orEmpty (anchor : Option Nat) (tag : Option String) : Reader Node :=
  if anchor.isSome || tag.isSome then return .scalar anchor tag .plain "" else failure

/-- Reads a node unless one of some tokens is next. -/
def nodeUnless : Nat → List Token → Bool → Bool → Reader Node
  | 0, _, _, _ => failure
  | fuel + 1, stops, inBlock, indentless => do
    match ← peek with
    | none => return empty
    | some token =>
      if stops.contains token then return empty else node fuel inBlock indentless

/-- Reads the entries of a block sequence and its end. -/
def blockItems : Nat → Reader (List Node)
  | 0 => failure
  | fuel + 1 => do
    if ← skipIf .blockEntry then
      let item ← nodeUnless fuel [.blockEntry, .blockEnd] true false
      return item :: (← blockItems fuel)
    if ← skipIf .blockEnd then return []
    failure

/-- Reads the entries of a sequence without indentation. -/
def indentlessItems : Nat → Reader (List Node)
  | 0 => failure
  | fuel + 1 => do
    if ← skipIf .blockEntry then
      let item ← nodeUnless fuel [.blockEntry, .key, .value, .blockEnd] true false
      return item :: (← indentlessItems fuel)
    return []

/-- Reads the pairs of a block mapping and its end. -/
def blockPairs : Nat → Reader (List (Node × Node))
  | 0 => failure
  | fuel + 1 => do
    let stops := [.key, .value, .blockEnd]
    if ← skipIf .key then
      let key ← nodeUnless fuel stops true true
      let value ← if ← skipIf .value then nodeUnless fuel stops true true else pure empty
      return (key, value) :: (← blockPairs fuel)
    if ← skipIf .blockEnd then return []
    failure

/-- Reads the value of a pair in a flow collection that a token ends. -/
def flowValue : Nat → Token → Reader Node
  | 0, _ => failure
  | fuel + 1, close => do
    if ← skipIf .value then nodeUnless fuel [.flowEntry, close] false false
    else return empty

/-- Reads the entries of a flow sequence and its end. -/
def flowItems : Nat → Bool → Reader (List Node)
  | 0, _ => failure
  | fuel + 1, first => do
    if ← skipIf .flowSequenceEnd then return []
    if !first then
      if !(← skipIf .flowEntry) then failure
      if ← skipIf .flowSequenceEnd then return []
    if ← skipIf .key then
      if ← sees [.value, .flowEntry, .flowSequenceEnd] then
        skip
        let value ← flowValue fuel .flowSequenceEnd
        return .mapping none [(empty, value)] :: (← flowItems fuel false)
      let key ← node fuel false false
      let value ← flowValue fuel .flowSequenceEnd
      return .mapping none [(key, value)] :: (← flowItems fuel false)
    let item ← node fuel false false
    return item :: (← flowItems fuel false)

/-- Reads the pairs of a flow mapping and its end. -/
def flowPairs : Nat → Bool → Reader (List (Node × Node))
  | 0, _ => failure
  | fuel + 1, first => do
    if ← skipIf .flowMappingEnd then return []
    if !first then
      if !(← skipIf .flowEntry) then failure
      if ← skipIf .flowMappingEnd then return []
    if ← skipIf .key then
      let key ← nodeUnless fuel [.value, .flowEntry, .flowMappingEnd] false false
      let value ← flowValue fuel .flowMappingEnd
      return (key, value) :: (← flowPairs fuel false)
    let key ← node fuel false false
    return (key, empty) :: (← flowPairs fuel false)

end

/-- Takes the directives in front of a document. -/
def directives : List Token → Bool → List (String × String) → Option (List Token × List (String × String))
  | .versionDirective major minor :: rest, versioned, handles =>
    if versioned || major != 1 || (minor != 1 && minor != 2) then none
    else directives rest true handles
  | .tagDirective handle meaning :: rest, versioned, handles =>
    if handles.any (·.1 == handle) then none
    else directives rest versioned ((handle, meaning) :: handles)
  | tokens, _, handles => some (tokens, handles)

/-- The meanings of the tag handles that need no directive. -/
def standardHandles : List (String × String) :=
  [("!", "!"), ("!!", "tag:yaml.org,2002:")]

/-- Whether a token cannot belong to the content of a document. -/
def endsContent : Token → Bool
  | .versionDirective .. | .tagDirective .. | .documentStart | .documentEnd => true
  | _ => false

/-- Reads the root node of a document. -/
def root? (handles : List (String × String)) (tokens : List Token) : Option (Node × List Token) :=
  (node (2 * tokens.length + 8) true false ⟨tokens, [], handles ++ standardHandles⟩).map
    fun (root, r) => (root, r.tokens)

/-- Reads the document at the front of the tokens: its root, if it has any, and what follows. -/
def document? (tokens : List Token) : Option (Option Node × List Token) :=
  match tokens with
  | [] => some (none, [])
  | token :: _ =>
    if endsContent token && token != .documentEnd then do
      let (tokens, handles) ← directives tokens false []
      match tokens with
      | .documentStart :: tokens =>
        if tokens.head?.all endsContent then some (some empty, tokens)
        else (root? handles tokens).map fun (root, rest) => (some root, rest)
      | _ => none
    else (root? [] tokens).map fun (root, rest) => (some root, rest)

/-- The root of a text that holds one document; none if the text holds no node. -/
def parse? (text : String) : Option (Option Node) := do
  let (root, rest) ← document? (← tokens? text)
  if rest.all (· == .documentEnd) then return root else none

mutual

/-- The nodes with an anchor and their numbers, in the order of the text. -/
def anchored : Node → List (Nat × Node)
  | .scalar anchor tag style text =>
    anchor.elim [] fun n => [(n, .scalar anchor tag style text)]
  | .sequence anchor items =>
    anchor.elim [] (fun n => [(n, .sequence anchor items)]) ++ anchoredItems items
  | .mapping anchor pairs =>
    anchor.elim [] (fun n => [(n, .mapping anchor pairs)]) ++ anchoredPairs pairs
  | .alias _ => []

/-- The nodes with an anchor below the items of a sequence. -/
def anchoredItems : List Node → List (Nat × Node)
  | [] => []
  | item :: rest => anchored item ++ anchoredItems rest

/-- The nodes with an anchor below the pairs of a mapping. -/
def anchoredPairs : List (Node × Node) → List (Nat × Node)
  | [] => []
  | (key, value) :: rest => anchored key ++ anchored value ++ anchoredPairs rest

end

/-- The node itself, or the one that an alias refers to. -/
def follow (anchors : List (Nat × Node)) : Node → Node
  | .alias target => (anchors.reverse.lookup target).getD empty
  | node => node

end Node

end ModelGate.Yaml

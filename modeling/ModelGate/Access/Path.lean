/-!
# Paths of model requests

A request for a model has the path `/llm/{model-name}/...`. The name is the second segment, taken
as it stands; the leading slash may be missing.
-/

namespace ModelGate.Access

/-- Why a path names no model. -/
inductive PathError where
  | malformed
  | missingName
  deriving DecidableEq, Repr

def PathError.message : PathError → String
  | .malformed => "invalid path format: expected /llm/\x7bmodel-name\x7d/..."
  | .missingName => "model name not found in path"

/-- Whether a character belongs to a segment. -/
def inSegment (c : Char) : Bool :=
  c != '/'

/-- A path without its leading slash. -/
def relative : List Char → List Char
  | '/' :: rest => rest
  | cs => cs

/-- The first segment of a path that follows a slash. -/
def secondSegment? (cs : List Char) : Option (List Char) :=
  match cs.dropWhile inSegment with
  | [] => none
  | _ :: rest => some (rest.takeWhile inSegment)

/-- The name of the model that a path asks for. -/
def modelName (path : String) : Except PathError String :=
  let cs := relative path.toList
  if cs.takeWhile inSegment = ['l', 'l', 'm'] then
    match secondSegment? cs with
    | none => .error .malformed
    | some [] => .error .missingName
    | some name => .ok (String.ofList name)
  else .error .malformed

end ModelGate.Access

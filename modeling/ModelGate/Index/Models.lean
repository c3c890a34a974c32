import ModelGate.Access.Decision
import ModelGate.Cluster.Model

/-!
# The index of models

The models of the cluster by name, and those of one name by namespace in ascending order. A name
without models has no place in the index.
-/

namespace ModelGate

open Access (ModelAccess)

/-- An object without a name, which cannot be indexed. -/
inductive IndexError where
  | unnamed
  deriving DecidableEq, Repr

/-- The models of one name, in ascending order of their namespaces. -/
structure NamedModels where
  name : String
  models : List ModelAccess
  deriving DecidableEq, Repr

structure ModelIndex where
  names : List NamedModels
  deriving DecidableEq, Repr

namespace ModelIndex

def empty : ModelIndex :=
  ⟨[]⟩

/-- Puts a model in its place among those of its name; it replaces one of the same namespace. -/
def insertModel (model : ModelAccess) : List ModelAccess → List ModelAccess
  | [] => [model]
  | other :: rest =>
    if model.ns < other.ns then model :: other :: rest
    else if model.ns = other.ns then model :: rest
    else other :: insertModel model rest

/-- Puts a model among those of its name. -/
def insertNamed (model : ModelAccess) : List NamedModels → List NamedModels
  | [] => [⟨model.name, [model]⟩]
  | entry :: rest =>
    if entry.name = model.name then ⟨entry.name, insertModel model entry.models⟩ :: rest
    else entry :: insertNamed model rest

/-- Takes a model from those of its name, and the name with its last model. -/
def eraseNamed (ns name : String) : List NamedModels → List NamedModels
  | [] => []
  | entry :: rest =>
    if entry.name = name then
      match entry.models.filter (·.ns != ns) with
      | [] => rest
      | models => ⟨name, models⟩ :: rest
    else entry :: eraseNamed ns name rest

/-- Indexes a model. -/
def insert (index : ModelIndex) (model : ModelAccess) : ModelIndex :=
  ⟨insertNamed model index.names⟩

/-- Forgets a model. -/
def erase (index : ModelIndex) (ns name : String) : ModelIndex :=
  ⟨eraseNamed ns name index.names⟩

/-- The models of a name, in ascending order of their namespaces. -/
def modelsNamed (index : ModelIndex) (name : String) : List ModelAccess :=
  (index.names.find? (·.name == name)).elim [] (·.models)

def size (index : ModelIndex) : Nat :=
  index.names.foldr (·.models.length + ·) 0

def isEmpty (index : ModelIndex) : Bool :=
  index.names.isEmpty

/-- Takes note of a model as it is now. One without a namespace is passed over. -/
def apply (index : ModelIndex) (model : Model) : Except IndexError ModelIndex :=
  match model.metadata.ns with
  | none => .ok index
  | some ns =>
    match model.metadata.name with
    | none => .error .unnamed
    | some name => .ok (index.insert ⟨ns, name, model.tiers⟩)

end ModelIndex

end ModelGate

import ModelGate.Access.Allowlist
import ModelGate.Access.Path

/-!
# Authorization of model requests

Whether a tier may use the model that a path names. Models of one name in several namespaces must
all allow the tier, and none of them may carry an allowlist that cannot be read.
-/

namespace ModelGate.Access

/-- What the authorization of a request needs to know of one model. -/
structure ModelAccess where
  ns : String
  name : String
  tiers : Option String
  deriving DecidableEq, Repr

/-- The answer to an authorization request. -/
structure Decision where
  allowed : Bool
  reason : Option String
  deriving DecidableEq, Repr

namespace Decision

/-- The decision that lets a request pass. -/
def allow : Decision :=
  ⟨true, none⟩

/-- The decision that refuses a tier. -/
def deny (tier : String) : Decision :=
  ⟨false, some ("user tier '" ++ tier ++ "' not in model's allowed tiers")⟩

def display (decision : Decision) : String :=
  if decision.allowed then "allowed"
  else decision.reason.elim "denied" ("denied: " ++ ·)

end Decision

/-- Why a request cannot be decided. -/
inductive AuthorizeError where
  | path (error : PathError)
  | notFound (name : String)
  | invalidAllowlist (ns name : String) (fault : Json.Fault)
  deriving DecidableEq, Repr

/-- The text of an authorization error; a fault in an allowlist is shown as `<json>`. -/
def AuthorizeError.message : AuthorizeError → String
  | .path error => error.message
  | .notFound name => "model not found: " ++ name
  | .invalidAllowlist ns name _ =>
    "invalid tier annotation format on " ++ ns ++ "/" ++ name ++ ": <json>"

/-- Takes one more model into account: a denial stays, but every allowlist is read. -/
def Decision.consider (tier : String) (decision : Decision) (model : ModelAccess) :
    Except AuthorizeError Decision :=
  match AllowedTiers.ofAnnotation model.tiers with
  | .error fault => .error (.invalidAllowlist model.ns model.name fault)
  | .ok allowed =>
    .ok (if decision.allowed && !allowed.permits tier then .deny tier else decision)

/-- Decides whether a tier may use the model that a path names. -/
def authorize (modelsNamed : String → List ModelAccess) (path tier : String) :
    Except AuthorizeError Decision :=
  match modelName path with
  | .error error => .error (.path error)
  | .ok name =>
    match modelsNamed name with
    | [] => .error (.notFound name)
    | models => models.foldlM (Decision.consider tier) .allow

end ModelGate.Access

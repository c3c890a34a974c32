/-!
# Counting decisions

Every decision request to a known endpoint counts once, under its endpoint and its outcome.
-/

namespace ModelGate

/-- The endpoints of the decision service. -/
inductive Endpoint where
  | tiersLookup
  | modelsAuthorize
  deriving DecidableEq, Repr

namespace Endpoint

def path : Endpoint → String
  | .tiersLookup => "/v1/tiers/lookup"
  | .modelsAuthorize => "/v1/models/authorize"

def atPath? (path : String) : Option Endpoint :=
  [tiersLookup, modelsAuthorize].find? (·.path == path)

def label : Endpoint → String
  | .tiersLookup => "tiers_lookup"
  | .modelsAuthorize => "models_authorize"

end Endpoint

inductive DecisionOutcome where
  | tier
  | noTier
  | allowed
  | denied
  | badRequest
  | notFound
  | methodNotAllowed
  | timeout
  | tooLarge
  | error
  deriving DecidableEq, Repr

def DecisionOutcome.label : DecisionOutcome → String
  | .tier => "tier"
  | .noTier => "no_tier"
  | .allowed => "allowed"
  | .denied => "denied"
  | .badRequest => "bad_request"
  | .notFound => "not_found"
  | .methodNotAllowed => "method_not_allowed"
  | .timeout => "timeout"
  | .tooLarge => "too_large"
  | .error => "error"

/-- How often something happened. -/
structure Tally (α : Type) where
  key : α
  count : Nat
  deriving DecidableEq, Repr

namespace Tally

/-- Counts one more occurrence. -/
def bump {α : Type} [DecidableEq α] (key : α) : List (Tally α) → List (Tally α)
  | [] => [⟨key, 1⟩]
  | t :: rest => if t.key = key then ⟨key, t.count + 1⟩ :: rest else t :: bump key rest

/-- How often something was counted. -/
def count? {α : Type} [DecidableEq α] (key : α) (tallies : List (Tally α)) : Nat :=
  (tallies.find? fun t => decide (t.key = key)).elim 0 (·.count)

/-- The line of a count with two labels. -/
def line (name : String) (first second : String × String) (count : Nat) : String :=
  name ++ "\x7b" ++ first.1 ++ "=\"" ++ first.2 ++ "\"," ++ second.1 ++ "=\"" ++ second.2 ++
    "\"\x7d " ++ toString count

end Tally

end ModelGate

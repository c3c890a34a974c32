/-!
# Identities by their groups

Two lists with the same groups stand for the same identity, whatever their order and however
often a group comes. The key of an identity lists its groups once each, in ascending order.
-/

namespace ModelGate

/-- Puts a group in its place in an ascending list, unless it is there already. -/
def insertGroup (group : String) : List String → List String
  | [] => [group]
  | other :: rest =>
    if group < other then group :: other :: rest
    else if group = other then other :: rest
    else other :: insertGroup group rest

structure GroupKey where
  groups : List String
  deriving DecidableEq, Repr

/-- The key of the identity with the given groups. -/
def GroupKey.ofGroups (groups : List String) : GroupKey :=
  ⟨groups.foldr insertGroup []⟩

end ModelGate

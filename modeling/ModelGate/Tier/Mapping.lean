/-!
# Tiers and the mapping from groups to tiers

A tier is granted to the members of some groups. A mapping holds tiers with pairwise different
names and levels, and a list of groups resolves to the tier of the highest level among those
that list one of the groups.
-/

namespace ModelGate

structure Tier where
  name : String
  displayName : String
  level : Nat
  deriving DecidableEq, Repr

/-- A tier and the groups whose members belong to it. -/
structure TierEntry where
  tier : Tier
  groups : List String
  deriving DecidableEq, Repr

/-- Why a list of entries is no mapping. -/
inductive TierMappingError where
  | emptyName
  | duplicateName (name : String)
  | duplicateLevel (earlier later : String) (level : Nat)
  deriving DecidableEq, Repr

def TierMappingError.message : TierMappingError → String
  | .emptyName => "tier name must not be empty"
  | .duplicateName name => "duplicate tier name: " ++ name
  | .duplicateLevel earlier later level =>
    "tiers " ++ earlier ++ " and " ++ later ++ " share level " ++ toString level

/-- The tiers known at one time, in the order in which they were given. -/
structure TierMapping where
  entries : List TierEntry
  deriving DecidableEq, Repr

namespace TierMapping

def empty : TierMapping :=
  ⟨[]⟩

/-- The tiers of a mapping. -/
def tiers (mapping : TierMapping) : List Tier :=
  mapping.entries.map (·.tier)

/-- What keeps a tier from joining a mapping. -/
def conflict? (mapping : TierMapping) (tier : Tier) : Option TierMappingError :=
  if tier.name = "" then some .emptyName
  else if mapping.tiers.any (·.name == tier.name) then some (.duplicateName tier.name)
  else
    (mapping.tiers.find? (·.level == tier.level)).map fun earlier =>
      .duplicateLevel earlier.name tier.name tier.level

/-- Adds one entry behind the others. -/
def add (mapping : TierMapping) (entry : TierEntry) : Except TierMappingError TierMapping :=
  match mapping.conflict? entry.tier with
  | some error => .error error
  | none => .ok ⟨mapping.entries ++ [entry]⟩

/-- The mapping of a list of entries, or what is wrong with the first one that does not fit. -/
def ofEntries (entries : List TierEntry) : Except TierMappingError TierMapping :=
  entries.foldlM add empty

/-- The number of tiers, those without groups included. -/
def size (mapping : TierMapping) : Nat :=
  mapping.entries.length

def isEmpty (mapping : TierMapping) : Bool :=
  mapping.entries.isEmpty

/-- Whether an entry lists one of some groups. -/
def sharesGroup (groups : List String) (entry : TierEntry) : Bool :=
  entry.groups.any groups.contains

/-- The better of two tiers: the one of the higher level. -/
def higher (best : Option Tier) (tier : Tier) : Option Tier :=
  match best with
  | none => some tier
  | some other => some (if other.level ≤ tier.level then tier else other)

/-- The tier of the highest level among those that list one of the groups. -/
def resolve (mapping : TierMapping) (groups : List String) : Option Tier :=
  ((mapping.entries.filter (sharesGroup groups)).map (·.tier)).foldl higher none

end TierMapping

end ModelGate

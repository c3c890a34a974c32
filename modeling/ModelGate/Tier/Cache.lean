import ModelGate.Tier.GroupKey
import ModelGate.Tier.Mapping
import ModelGate.Time.Duration

/-!
# The cache of resolved identities

A resolution is kept for a fixed time. When the cache is full, an identity that is not in it
displaces the entries that have expired, or else the one that expires next.
-/

namespace ModelGate

/-- A resolved identity and the time from which on it has to be resolved anew. -/
structure CachedTier where
  key : GroupKey
  tier : Option Tier
  expiresAt : Duration
  deriving DecidableEq, Repr

/-- The resolutions kept, from the oldest to the latest, with their time to live. -/
structure TierCache where
  ttl : Duration
  capacity : Nat
  entries : List CachedTier
  deriving DecidableEq, Repr

/-- A time to live that ends beyond what a clock can show. -/
inductive ExpiryError where
  | unrepresentable
  deriving DecidableEq, Repr

namespace TierCache

/-- The time to live unless another one is given. -/
def defaultTtl : Duration :=
  Duration.ofSeconds 300

/-- The capacity unless another one is given. -/
def defaultCapacity : Nat :=
  10000

/-- An empty cache; it has room for at least one identity. -/
def new (ttl : Duration) (capacity : Nat) : TierCache :=
  ⟨ttl, max capacity 1, []⟩

def size (cache : TierCache) : Nat :=
  cache.entries.length

/-- The entry of an identity. -/
def find? (cache : TierCache) (key : GroupKey) : Option CachedTier :=
  cache.entries.find? (·.key == key)

/-- The entry of an identity while it is fresh. -/
def fresh? (cache : TierCache) (key : GroupKey) (now : Duration) : Option CachedTier :=
  (cache.find? key).filter fun entry => decide (now < entry.expiresAt)

/-- The earliest expiry in a list. -/
def earliest? (entries : List CachedTier) : Option Duration :=
  (entries.map (·.expiresAt)).min?

/-- Removes the first entry of those that expire next. -/
def dropNext (entries : List CachedTier) : List CachedTier :=
  entries.eraseP fun entry => some entry.expiresAt == earliest? entries

/-- Removes what expires next until fewer entries than a bound are left. -/
def shrink (bound : Nat) : Nat → List CachedTier → List CachedTier
  | 0, entries => entries
  | steps + 1, entries =>
    if entries.length < bound then entries else shrink bound steps (dropNext entries)

/-- Makes room for an identity that is not kept yet. -/
def makeRoom (cache : TierCache) (key : GroupKey) (now : Duration) : List CachedTier :=
  if cache.capacity ≤ cache.entries.length ∧ (cache.find? key).isNone then
    let live := cache.entries.filter fun entry => decide (now < entry.expiresAt)
    shrink cache.capacity live.length live
  else cache.entries

/-- Replaces the entry of an identity where it stands, or adds it as the latest. -/
def put (entry : CachedTier) : List CachedTier → List CachedTier
  | [] => [entry]
  | other :: rest => if other.key = entry.key then entry :: rest else other :: put entry rest

/-- The end of a time to live, if a clock with signed 64-bit seconds can show it. -/
def expiry? (now ttl : Duration) : Option Duration :=
  if (now + ttl).seconds < 1 <<< 63 then some (now + ttl) else none

/-- Resolves an identity: from its entry while that is fresh, otherwise by the mapping, whose
answer is then kept. Room is made before the expiry is known. -/
def resolve (cache : TierCache) (mapping : TierMapping) (now : Duration) (key : GroupKey) :
    Except ExpiryError (Option Tier) × TierCache :=
  match cache.fresh? key now with
  | some entry => (.ok entry.tier, cache)
  | none =>
    let tier := mapping.resolve key.groups
    let kept := cache.makeRoom key now
    match expiry? now cache.ttl with
    | none => (.error .unrepresentable, ⟨cache.ttl, cache.capacity, kept⟩)
    | some expiresAt =>
      (.ok tier, ⟨cache.ttl, cache.capacity, put ⟨key, tier, expiresAt⟩ kept⟩)

end TierCache

end ModelGate

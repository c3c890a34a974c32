import ModelGate.Cluster.Metadata
import ModelGate.Time.Duration

/-!
# Waiting times between retries

Every object waits longer after each failure in a row: the first time the shortest delay, then
twice as long every time, up to the longest one. A success starts it over.
-/

namespace ModelGate

/-- How often an object failed in a row. -/
structure Failures where
  id : ObjectId
  count : Nat
  deriving DecidableEq, Repr

/-- The failures of all objects and the bounds of the delays. -/
structure Backoff where
  shortest : Duration
  longest : Duration
  failures : List Failures
  deriving DecidableEq, Repr

namespace Backoff

/-- The bounds of the delays; the upper one is never below the lower one. -/
def new (shortest longest : Duration) : Backoff :=
  ⟨shortest, max longest shortest, []⟩

/-- Delays from one second to five minutes. -/
def standard : Backoff :=
  new (Duration.ofSeconds 1) (Duration.ofSeconds 300)

/-- The number of failures of an object since it last started over. -/
def count (b : Backoff) (id : ObjectId) : Nat :=
  (b.failures.find? (·.id == id)).elim 0 (·.count)

/-- By how much the shortest delay is multiplied after a number of failures: a power of two that
fits 32 bits, or else the greatest number that does. -/
def factor (count : Nat) : Nat :=
  if count < 32 then 1 <<< count else UInt32.size - 1

/-- The delay after a number of earlier failures. -/
def delay (b : Backoff) (count : Nat) : Duration :=
  let product := b.shortest * factor count
  if product ≤ Duration.longest then min product b.longest else b.longest

/-- Forgets the failures of an object. -/
def reset (b : Backoff) (id : ObjectId) : Backoff :=
  { b with failures := b.failures.filter (·.id != id) }

/-- Counts one more failure of an object; the count stays within 32 bits. -/
def next (b : Backoff) (id : ObjectId) : Duration × Backoff :=
  let count := b.count id
  (b.delay count,
    { b with failures := ⟨id, min (count + 1) (UInt32.size - 1)⟩ :: (b.reset id).failures })

end Backoff

end ModelGate

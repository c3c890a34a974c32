import ModelGate.Time.Duration

/-!
# Claims to leadership

Of all controllers the one that holds the current claim does the work. The others wait until they
acquire the claim, and the one that holds it waits until it is lost.
-/

namespace ModelGate

/-- A claim and the time up to which it holds. -/
structure Claim where
  holder : String
  expiry : Duration
  deriving DecidableEq, Repr

/-- Whether a claim is held by a host at a time. -/
def Claim.isCurrentFor (claim : Claim) (host : String) (now : Duration) : Bool :=
  decide (now < claim.expiry) && claim.holder == host

/-- The last claim that was announced, and whether more may follow. -/
structure ClaimChannel where
  claim : Claim
  closed : Bool
  deriving DecidableEq, Repr

namespace ClaimChannel

/-- A channel that starts with a claim. -/
def start (claim : Claim) : ClaimChannel :=
  ⟨claim, false⟩

/-- Announces a claim; a closed channel keeps its last one. -/
def announce (channel : ClaimChannel) (claim : Claim) : ClaimChannel :=
  if channel.closed then channel else { channel with claim }

/-- Ends the announcements. -/
def close (channel : ClaimChannel) : ClaimChannel :=
  { channel with closed := true }

/-- What a host that waits to acquire the claim knows: that it holds it, that it never will, or
nothing yet. -/
def acquired? (channel : ClaimChannel) (host : String) (now : Duration) : Option Bool :=
  if channel.claim.isCurrentFor host now then some true
  else if channel.closed then some false
  else none

/-- Whether a host that waits to lose the claim has lost it. A closed channel counts as a loss,
because nobody would tell of one. -/
def isLost (channel : ClaimChannel) (host : String) (now : Duration) : Bool :=
  !channel.claim.isCurrentFor host now || channel.closed

end ClaimChannel

/-- What a host can wait for. -/
inductive Awaited where
  | acquisition
  | loss
  deriving DecidableEq, Repr

/-- How a wait ends. -/
inductive WaitEnd where
  | acquired
  /-- The claim will never be acquired, because nobody announces another one. -/
  | refused
  | lost
  deriving DecidableEq, Repr

/-- How a wait ends that sees a channel at a time, if it does. -/
def ClaimChannel.waitEnd? (channel : ClaimChannel) (host : String) (now : Duration) :
    Awaited → Option WaitEnd
  | .acquisition =>
    (channel.acquired? host now).map fun acquired => if acquired then .acquired else .refused
  | .loss => if channel.isLost host now then some .lost else none

/-- A host that waits, and how its wait has ended. -/
structure Waiter where
  host : String
  awaited : Awaited
  ended : Option WaitEnd
  deriving DecidableEq, Repr

namespace Waiter

/-- A host that begins to wait. -/
def start (host : String) (awaited : Awaited) : Waiter :=
  ⟨host, awaited, none⟩

/-- Looks at a channel at a time, unless the wait has ended. -/
def look (w : Waiter) (channel : ClaimChannel) (now : Duration) : Waiter :=
  { w with ended := w.ended.or (channel.waitEnd? w.host now w.awaited) }

end Waiter

end ModelGate

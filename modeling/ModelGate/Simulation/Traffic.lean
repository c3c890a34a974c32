import ModelGate.Cluster.Wire
import ModelGate.Reconcile.Program
import ModelGate.Simulation.Cluster

/-!
# Traffic

Requests on their way to a cluster. A fault can delay a request, refuse it, or keep it from ever
being answered. What becomes of a request is settled when it leaves; the API server sees it, if it
does, only when it arrives.
-/

namespace ModelGate

/-- A disturbance of the requests that fit it; what is not given fits all. -/
structure Fault where
  method : Option String
  kind : Option String
  ns : Option String
  name : Option String
  /-- How many requests are still to be disturbed. -/
  times : Option Nat
  delay : Duration
  /-- Whether no answer ever comes. -/
  hangs : Bool
  refusal : Option ApiError
  deriving DecidableEq, Repr

namespace Fault

/-- A disturbance that does nothing. -/
def none : Fault :=
  ⟨.none, .none, .none, .none, .none, 0, false, .none⟩

/-- Whether a request fits. -/
def fits (f : Fault) (r : Request) : Bool :=
  f.times != some 0 && f.method.all (· == r.method) && f.kind.all (· == r.kind.text) &&
    f.ns.all (· == r.target.ns) && f.name.all (· == r.target.name)

/-- The fault after one more use. -/
def used (f : Fault) : Fault :=
  { f with times := f.times.map (· - 1) }

/-- The first fault that a request fits, and the faults that are left behind it. -/
def pick (r : Request) : List Fault → Fault × List Fault
  | [] => (none, [])
  | f :: rest =>
    if f.fits r then (f, f.used :: rest)
    else
      let (found, left) := pick r rest
      (found, f :: left)

end Fault

/-- What becomes of a request. -/
inductive Fate where
  /-- It is answered by the API server. -/
  | delivered
  | refused (error : ApiError)
  /-- Its sender stops waiting. -/
  | abandoned
  deriving DecidableEq, Repr

/-- The fate of a request and the time at which its sender knows it, if it ever does. -/
structure Transit where
  fate : Fate
  arrival : Option Duration
  deriving DecidableEq, Repr

/-- What a fault makes of a request that leaves at a time, from a sender that may wait only for a
while. A sender that waits just as long as the delay still gets its answer. -/
def Fault.transit (f : Fault) (now : Duration) (limit : Option Duration) : Transit :=
  let late := f.hangs || limit.any fun most => most < f.delay
  if late then ⟨.abandoned, limit.map (now + ·)⟩
  else ⟨f.refusal.elim .delivered .refused, some (now + f.delay)⟩

/-- A cluster, the disturbances of its traffic, the requests sent to it so far and the time. -/
structure Traffic where
  cluster : Cluster
  faults : List Fault
  sent : List Request
  clock : Duration

namespace Traffic

/-- The traffic of a cluster that nothing was sent to. -/
def start (cluster : Cluster) : Traffic :=
  ⟨cluster, [], [], 0⟩

/-- The present as a point of time. -/
def now (t : Traffic) : String :=
  Calendar.timestamp (Duration.seconds t.clock)

/-- Adds a disturbance behind the others. -/
def disturb (t : Traffic) (fault : Fault) : Traffic :=
  { t with faults := t.faults ++ [fault] }

/-- Removes all disturbances. -/
def calm (t : Traffic) : Traffic :=
  { t with faults := [] }

/-- A request leaves its sender. -/
def depart (t : Traffic) (r : Request) (limit : Option Duration) : Transit × Traffic :=
  let (fault, faults) := Fault.pick r t.faults
  (fault.transit t.clock limit, { t with faults, sent := t.sent ++ [r] })

/-- A request meets its fate. -/
def arrive (t : Traffic) (r : Request) : Fate → Reply r.Answer × Traffic
  | .abandoned => (.timedOut, t)
  | .refused error => (.failed (.refused error), t)
  | .delivered =>
    match t.cluster.answer t.now r with
    | (.ok answer, cluster) => (.answered answer, { t with cluster })
    | (.error error, cluster) => (.failed (.refused error), { t with cluster })

/-- Runs a program that is alone in the cluster. It leaves its notes, and has no result if it
waits for an answer that never comes. -/
def run {α : Type} (t : Traffic) (notes : List Note) : Program α → Option α × List Note × Traffic
  | .done value => (some value, notes, t)
  | .note event rest => t.run (notes ++ [event]) rest
  | .ask request limit next =>
    match t.depart request limit with
    | (⟨_, none⟩, t) => (none, notes, t)
    | (⟨fate, some time⟩, t) =>
      let (reply, t) := { t with clock := time }.arrive request fate
      t.run notes (next reply)

end Traffic

end ModelGate

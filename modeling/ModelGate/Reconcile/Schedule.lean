import ModelGate.Cluster.Metadata
import ModelGate.Time.Duration

/-!
# Schedules

When to look at which object. Every object has at most one time, and of several requests the
earliest counts.
-/

namespace ModelGate

/-- The objects to look at, and when. -/
structure Schedule where
  entries : List (ObjectId × Duration)
  deriving DecidableEq, Repr

namespace Schedule

def empty : Schedule :=
  ⟨[]⟩

/-- The time of an object. -/
def time? (s : Schedule) (id : ObjectId) : Option Duration :=
  s.entries.lookup id

/-- Takes an object off the schedule. -/
def erase (s : Schedule) (id : ObjectId) : Schedule :=
  ⟨s.entries.filter (·.1 != id)⟩

/-- Asks to look at an object at a time, unless it will be looked at before. -/
def request (s : Schedule) (id : ObjectId) (time : Duration) : Schedule :=
  match s.time? id with
  | some old => if old < time then s else ⟨(s.erase id).entries ++ [(id, time)]⟩
  | none => ⟨s.entries ++ [(id, time)]⟩

/-- Asks to look at several objects at a time. -/
def requestAll (s : Schedule) (ids : List ObjectId) (time : Duration) : Schedule :=
  ids.foldl (fun s id => s.request id time) s

/-- The objects that may be looked at, with their times. -/
def available (s : Schedule) (free : ObjectId → Bool) : List (ObjectId × Duration) :=
  s.entries.filter fun entry => free entry.1

/-- The first object that may be looked at by now. -/
def due? (s : Schedule) (free : ObjectId → Bool) (now : Duration) : Option ObjectId :=
  ((s.available free).find? fun entry => decide (entry.2 ≤ now)).map (·.1)

/-- The next time at which an object may be looked at. -/
def next? (s : Schedule) (free : ObjectId → Bool) : Option Duration :=
  ((s.available free).map (·.2)).min?

end Schedule

end ModelGate

import ModelGate.Leadership.Claim
import ModelGate.Reconcile.Records
import ModelGate.Reconcile.Schedule
import ModelGate.Simulation.Traffic

/-!
# The controller at work

The controller over time. It makes a pass over every model that is new or has changed, or whose
time has come, never two over one model at once. A change during a pass leads to another pass
behind it. Once told to stop it takes up nothing new, but ends what it has begun.
-/

namespace ModelGate

/-- How a controller is set up. -/
structure ControllerSettings where
  registry : Registry
  /-- How long a request may take. -/
  limit : Duration
  /-- The present as evaluations record it. -/
  present : String
  /-- How many passes there may be at once; zero stands for any number. -/
  concurrency : Nat
  /-- Whether a change of a service counts as a change of the models that it serves. -/
  watchesServices : Bool

/-- A pass that waits for the reply to a request. -/
structure WaitingPass where
  id : ObjectId
  model : Model
  request : Request
  transit : Transit
  next : Reply request.Answer → Program (Except PassError Action)

/-- What a controller is doing. -/
inductive Stage where
  /-- It waits until it may begin. -/
  | idle
  | active
  /-- It ends what it has begun, and knows the models only as they were. -/
  | stopping (models : Table StoredModel)
  /-- It was told to stop before it knew the models, for which it now waits forever. -/
  | stalled
  | ended

/-- Who may work: anyone until told to stop, or the holder of the current claim. -/
inductive Tenure where
  | untilStopped (stopped : Bool)
  | whileClaimed (host : String) (channel : ClaimChannel) (drained : Bool)

namespace Tenure

/-- Whether a controller has to stop. -/
def isOver (tenure : Tenure) (now : Duration) : Bool :=
  match tenure with
  | .untilStopped stopped => stopped
  | .whileClaimed host channel drained => drained || channel.isLost host now

/-- Whether a controller that does not work never will again. -/
def isFinal (tenure : Tenure) (now : Duration) : Bool :=
  match tenure with
  | .untilStopped stopped => stopped
  | .whileClaimed host channel drained => drained || channel.acquired? host now == some false

/-- Whether a controller that waits begins to work. -/
def isGranted (tenure : Tenure) (now : Duration) : Bool :=
  match tenure with
  | .untilStopped stopped => !stopped
  | .whileClaimed host channel _ => channel.acquired? host now == some true

/-- Announces a claim. -/
def announce (tenure : Tenure) (claim : Claim) : Tenure :=
  match tenure with
  | .untilStopped stopped => .untilStopped stopped
  | .whileClaimed host channel drained => .whileClaimed host (channel.announce claim) drained

/-- Ends the announcements of claims. -/
def closeClaims (tenure : Tenure) : Tenure :=
  match tenure with
  | .untilStopped stopped => .untilStopped stopped
  | .whileClaimed host channel drained => .whileClaimed host channel.close drained

/-- Tells a controller to stop that works for nobody's claim. -/
def stop (tenure : Tenure) : Tenure :=
  match tenure with
  | .untilStopped _ => .untilStopped true
  | .whileClaimed host channel drained => .whileClaimed host channel drained

/-- Tells a controller that works for a claim that everything shuts down. -/
def drain (tenure : Tenure) : Tenure :=
  match tenure with
  | .untilStopped stopped => .untilStopped stopped
  | .whileClaimed host channel _ => .whileClaimed host channel true

end Tenure

/-- A controller at a moment of its work. -/
structure Controller where
  settings : ControllerSettings
  tenure : Tenure
  stage : Stage
  traffic : Traffic
  records : Records
  schedule : Schedule
  waiting : List WaitingPass

namespace Controller

/-- A controller that has not begun yet. -/
def new (settings : ControllerSettings) (tenure : Tenure) (cluster : Cluster) : Controller where
  settings := settings
  tenure := tenure
  stage := .idle
  traffic := .start cluster
  records := .start
  schedule := .empty
  waiting := []

/-- The time. -/
def clock (c : Controller) : Duration :=
  c.traffic.clock

/-- Whether the work has not come to an end. -/
def isRunning (c : Controller) : Bool :=
  match c.stage with
  | .ended => false
  | _ => true

/-- The models as the controller knows them. -/
def models (c : Controller) : Table StoredModel :=
  match c.stage with
  | .stopping models => models
  | _ => c.traffic.cluster.models

/-- Asks for passes over models at a time, if the controller still takes up anything. -/
def schedulePasses (c : Controller) (ids : List ObjectId) (time : Duration) : Controller :=
  match c.stage with
  | .active => { c with schedule := c.schedule.requestAll ids time }
  | _ => c

/-- Begins to work: every model is new. -/
def begin (c : Controller) : Controller :=
  let ids := c.traffic.cluster.models.sorted.map (·.1)
  { c with stage := .active, schedule := Schedule.empty.requestAll ids c.clock }

/-- Takes notice of a model that may have changed; one that is gone is left alone. -/
def modelChanged (c : Controller) (id : ObjectId) : Controller :=
  if (c.traffic.cluster.models.get? id).isSome then c.schedulePasses [id] c.clock else c

/-- Takes notice of a service that has changed or gone. -/
def serviceChanged (c : Controller) (id : ObjectId) : Controller :=
  if c.settings.watchesServices then
    c.schedulePasses (c.traffic.cluster.served InferenceBackend.references id) c.clock
  else c

/-- Takes notice of an object that has changed or gone. -/
def objectChanged (c : Controller) (kind : ObjectKind) (id : ObjectId) : Controller :=
  match kind with
  | .model => c.modelChanged id
  | .service => c.serviceChanged id
  | .route | .gateway | .lease => c

/-- Ends a pass: the model is looked at again when its result says so. -/
def conclude (c : Controller) (id : ObjectId) (model : Model)
    (result : Except PassError Action) : Controller :=
  let (action, records) := c.records.conclude model result
  let c := { c with records }
  match action with
  | .awaitChange => c
  | .requeue delay => c.schedulePasses [id] (c.clock + delay)

/-- Goes on with a pass up to its next request. -/
def proceed (c : Controller) (id : ObjectId) (model : Model) :
    Program (Except PassError Action) → Controller
  | .done result => c.conclude id model result
  | .note event rest => proceed { c with records := c.records.note event } id model rest
  | .ask request limit next =>
    let (transit, traffic) := c.traffic.depart request limit
    { c with traffic, waiting := c.waiting ++ [⟨id, model, request, transit, next⟩] }

/-- Begins a pass over a model, unless it is gone. -/
def beginPass (c : Controller) (id : ObjectId) : Controller :=
  let c := { c with schedule := c.schedule.erase id }
  match c.models.get? id with
  | none => c
  | some stored =>
    c.proceed id stored.model
      (Pass.reconcile c.settings.registry c.settings.limit c.settings.present stored.model)

/-- Whether a request that was answered has changed its object. -/
def hasChanged {r : Request} : Reply r.Answer → Bool
  | .answered _ => !r.isRead
  | .failed _ | .timedOut => false

/-- A request of a pass meets its fate, and the pass goes on. -/
def resume (c : Controller) (pass : WaitingPass) : Controller :=
  let (reply, traffic) := c.traffic.arrive pass.request pass.transit.fate
  let c := { c with traffic }
  let c := if hasChanged reply then c.objectChanged pass.request.kind pass.request.target else c
  c.proceed pass.id pass.model (pass.next reply)

/-- The first pass whose request has met its fate by now, and the other passes. -/
def arrived? (now : Duration) : List WaitingPass → Option (WaitingPass × List WaitingPass)
  | [] => none
  | pass :: rest =>
    if pass.transit.arrival.any fun time => time ≤ now then some (pass, rest)
    else (arrived? now rest).map fun (found, others) => (found, pass :: others)

/-- Whether a pass over a model may begin. -/
def isFree (c : Controller) (id : ObjectId) : Bool :=
  (c.settings.concurrency == 0 || decide (c.waiting.length < c.settings.concurrency)) &&
    !c.waiting.any (·.id == id)

/-- What comes next without waiting: a reply, or else a pass that is due. -/
def act? (c : Controller) : Option Controller :=
  match arrived? c.clock c.waiting with
  | some (pass, others) => some ({ c with waiting := others }.resume pass)
  | none => (c.schedule.due? c.isFree c.clock).map c.beginPass

/-- Follows the tenure: begins, stops or ends the work. -/
def supervise? (c : Controller) : Option Controller :=
  match c.stage with
  | .idle =>
    if c.tenure.isFinal c.clock then some { c with stage := .ended }
    else if !c.tenure.isGranted c.clock then none
    else if c.tenure.isOver c.clock then some { c with stage := .stalled }
    else some c.begin
  | .active =>
    if c.tenure.isOver c.clock then
      some { c with stage := .stopping c.traffic.cluster.models }
    else none
  | .stopping _ =>
    if c.waiting.isEmpty && (c.schedule.due? c.isFree c.clock).isNone then
      some { c with stage := .idle, schedule := .empty }
    else none
  | .stalled | .ended => none

/-- The next time at which something may happen. -/
def nextTime? (c : Controller) : Option Duration :=
  ((c.waiting.filterMap (·.transit.arrival)) ++ (c.schedule.next? c.isFree).toList).min?

/-- Lets everything happen up to a time, in at most a number of steps. -/
def runUntil (time : Duration) : Nat → Controller → Controller
  | 0, c => c
  | steps + 1, c =>
    match c.supervise?.or c.act? with
    | some c => runUntil time steps c
    | none =>
      match c.nextTime?.filter fun next => decide (next ≤ time) with
      | some next => runUntil time steps { c with traffic := { c.traffic with clock := next } }
      | none => { c with traffic := { c.traffic with clock := time } }

/-- More steps than a controller takes in a while: every model is due at most once a second, and
each time leads to a few passes of a few requests. -/
def stepBound (c : Controller) (span : Duration) : Nat :=
  (c.traffic.cluster.models.entries.length + c.waiting.length + 1) *
    (Duration.seconds span + 4) * 128

/-- Lets a while go by. -/
def advance (c : Controller) (span : Duration) : Controller :=
  runUntil (c.clock + span) (c.stepBound span) c

/-- Reads an object and creates or replaces it. -/
def put? (c : Controller) (j : Json) : Option Controller := do
  let cluster ← c.traffic.cluster.put? j
  let kind ← ObjectKind.ofText? (← (← j.member? "kind").str?)
  let metadata ← Metadata.ofJson? (← j.member? "metadata")
  return { c with traffic := { c.traffic with cluster } }.objectChanged kind metadata.id

/-- Deletes an object; if there is none, nothing happens. -/
def delete (c : Controller) (kind : ObjectKind) (id : ObjectId) : Controller :=
  if c.traffic.cluster.contains kind id then
    let cluster := c.traffic.cluster.delete kind id c.traffic.now
    { c with traffic := { c.traffic with cluster } }.objectChanged kind id
  else c

/-- The writes that were sent so far, in the order of their objects. -/
def writes (c : Controller) : List Request :=
  (c.traffic.sent.filter fun r => !r.isRead).mergeSort fun a b =>
    decide (a.kind.path a.target ≤ b.kind.path b.target)

/-- Forgets what was sent. -/
def forgetSent (c : Controller) : Controller :=
  { c with traffic := { c.traffic with sent := [] } }

end Controller

end ModelGate

import ModelGate.Reconcile.Backoff
import ModelGate.Reconcile.Metrics
import ModelGate.Reconcile.Pass

/-!
# Records of the controller

What the controller keeps from pass to pass: how often the passes over every model failed in a
row, and what it counted.
-/

namespace ModelGate

structure Records where
  backoff : Backoff
  metrics : ControllerMetrics
  deriving DecidableEq, Repr

namespace Records

def start : Records :=
  ⟨.standard, .zero⟩

/-- Takes up what a pass notes. -/
def note (r : Records) (event : Note) : Records :=
  let metrics := r.metrics.note event
  match event with
  | .settled id => ⟨r.backoff.reset id, metrics⟩
  | _ => ⟨r.backoff, metrics⟩

/-- Takes up the result of a pass over a model: a failed one is retried, later every time. -/
def conclude (r : Records) (model : Model) :
    Except PassError Action → Action × Records
  | .ok action => (action, r)
  | .error _ =>
    let (delay, backoff) := r.backoff.next model.id
    (.requeue delay, { r with backoff })

end Records

end ModelGate

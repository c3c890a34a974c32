import ModelGate.Cluster.ApiError
import ModelGate.Cluster.Gateway
import ModelGate.Cluster.Lease
import ModelGate.Time.Duration

/-!
# Requests to the API server

Everything that the controller ever asks of the API server, with the type of the answer to each
request. Only the last four kinds of requests change anything.
-/

namespace ModelGate

/-- A change of the finalizers of a model that only takes place if they are as expected. -/
inductive FinalizerPatch where
  /-- Gives a model without finalizers its first one. -/
  | addFirst
  /-- Adds one behind those that the model carries. -/
  | append (current : List String)
  /-- Removes the one at a position. -/
  | remove (index : Nat)
  deriving DecidableEq, Repr

/-- A request to the API server. -/
inductive Request where
  | getService (id : ObjectId)
  | getRoute (id : ObjectId)
  | getGateway (id : ObjectId)
  /-- Deletes a route if it still is the one with the given unique id. -/
  | deleteRoute (id : ObjectId) (uid : Option String)
  | patchFinalizers (id : ObjectId) (patch : FinalizerPatch)
  | applyStatus (id : ObjectId) (status : ModelStatus)
  | createLease (lease : WriteLease)
  deriving DecidableEq, Repr

namespace Request

/-- What a request is answered with. -/
abbrev Answer : Request → Type
  | .getService _ => InferenceService
  | .getRoute _ => HttpRoute
  | .getGateway _ => Gateway
  | .deleteRoute .. | .patchFinalizers .. | .applyStatus .. | .createLease _ => Unit

/-- The object that a request is about. -/
def target : Request → ObjectId
  | .getService id | .getRoute id | .getGateway id | .deleteRoute id _ | .patchFinalizers id _
  | .applyStatus id _ => id
  | .createLease lease => ⟨lease.ns, WriteLease.name⟩

def isRead : Request → Bool
  | .getService _ | .getRoute _ | .getGateway _ => true
  | _ => false

end Request

inductive Reply (α : Type) where
  | answered (answer : α)
  | failed (error : RequestError)
  /-- No answer came within the time that the sender waits. -/
  | timedOut
  deriving DecidableEq, Repr

end ModelGate

import ModelGate.Cluster.Request

/-!
# Programs over the API server

What the controller does is a program: a tree of requests in which every reply selects what comes
next. A program says nothing about the cluster, so that its laws hold of every cluster; on its way
it leaves notes of what it has done apart from its requests. A silent program leaves none.
-/

namespace ModelGate

/-- The calls of a backend that are noted. -/
inductive BackendCall where
  | route
  | status
  | cleanup
  deriving DecidableEq, Repr

/-- What a program notes on its way. -/
inductive Note where
  /-- A backend is called. -/
  | called (call : BackendCall)
  /-- A model was evaluated. -/
  | reconciled (kind : String) (phase : Option Phase)
  /-- A new status was stored. -/
  | statusPatched
  /-- The routes of a deleted model were removed, or could not be. -/
  | cleanedUp (kind : String) (ok : Bool)
  /-- The failures of an object no longer count. -/
  | settled (id : ObjectId)
  deriving DecidableEq, Repr

/-- A program over the API server. -/
inductive Program (α : Type) where
  | done (value : α)
  /-- Sends a request and waits for the reply, at most for the given time. -/
  | ask (request : Request) (limit : Option Duration) (next : Reply request.Answer → Program α)
  | note (event : Note) (rest : Program α)

namespace Program

/-- Goes on with another program. -/
def bind {α β : Type} : Program α → (α → Program β) → Program β
  | .done value, f => f value
  | .ask request limit next, f => .ask request limit fun reply => (next reply).bind f
  | .note event rest, f => .note event (rest.bind f)

instance : Monad Program where
  pure := .done
  bind := Program.bind

/-- Leaves a note. -/
def leave (event : Note) : Program Unit :=
  .note event (.done ())

/-- Sends a request, unless it names no object. -/
def send (request : Request) (limit : Option Duration) : Program (Reply request.Answer) :=
  if request.target.name = "" then .done (.failed .unnamed)
  else .ask request limit .done

/-- Whether a program notes nothing, whatever the replies are. -/
def IsSilent {α : Type} : Program α → Prop
  | .done _ => True
  | .ask _ _ next => ∀ reply, (next reply).IsSilent
  | .note _ _ => False

theorem isSilent_pure {α : Type} (value : α) : (pure value : Program α).IsSilent :=
  trivial

theorem isSilent_bind {α β : Type} {program : Program α} {next : α → Program β}
    (hprogram : program.IsSilent) (hnext : ∀ value, (next value).IsSilent) :
    (program >>= next).IsSilent := by
  induction program with
  | done value => exact hnext value
  | ask request limit rest ih => exact fun reply => ih reply (hprogram reply)
  | note event rest ih => exact hprogram.elim

theorem isSilent_send (request : Request) (limit : Option Duration) :
    (send request limit).IsSilent := by
  unfold send
  split
  · trivial
  · exact fun reply => trivial

/-- What a run of a program did, in its order. -/
inductive Event where
  | sent (request : Request) (limit : Option Duration)
  | noted (event : Note)
  deriving DecidableEq, Repr

/-- Runs a program against replies that may depend on everything before them. -/
def run {α : Type} (reply : List Event → (request : Request) → Option Duration →
    Reply request.Answer) : List Event → Program α → List Event × α
  | past, .done value => (past, value)
  | past, .note event rest => run reply (past ++ [.noted event]) rest
  | past, .ask request limit next =>
    run reply (past ++ [.sent request limit]) (next (reply past request limit))

end Program

end ModelGate

import ModelGate.Reconcile.Program

/-!
# Having a write lease

Before the controllers can compete for the write lease it has to be there. Every one of them asks
for it to be created, and that it is there already is as good.
-/

namespace ModelGate.WriteLease

/-- Makes sure that the lease exists. -/
def ensure (lease : WriteLease) : Program (Except RequestError Unit) := do
  match ← Program.send (.createLease lease) none with
  | .answered () => return .ok ()
  | .failed (.refused error) =>
    if error.code = 409 then return .ok () else return .error (.refused error)
  | .failed error => return .error error
  | .timedOut => return .error .unreadable

/-- Says why the lease could not be created: the error and then what lies behind it. -/
def failureText (error : RequestError) : String :=
  let causes := match error with
    | .refused refusal => [error.message, refusal.summary]
    | _ => [error.message]
  ": ".intercalate ("failed to create write Lease" :: causes)

end ModelGate.WriteLease

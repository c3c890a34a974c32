import Mathlib
import ModelGate.Proofs.Reconcile.BackendRequests

/-!
# What is left of a program behind a late reply

A request that is sent with a limit may have no reply in time.  `OnTimeout` says of what kind the
rest of a program is then, on every branch, and `run_eq_of_timedOut` that a run which meets such a
request goes on with a rest of this kind.

A late reply ends every call of a backend with an error that names the limit (`IsLate`), so nothing
else is sent by the call, and the evaluation of a model ends as failed (`onTimeout_evaluate`).
-/

namespace ModelGate

namespace Program

variable {α β : Type} {reply : Replies} {past : List Event}

/-- A run keeps what happened before it. -/
theorem exists_run_eq_append (reply : Replies) (program : Program α) (past : List Event) :
    ∃ events, (run reply past program).1 = past ++ events := by
  induction program generalizing past with
  | done value => exact ⟨[], (List.append_nil past).symm⟩
  | ask request limit next ih =>
      obtain ⟨events, hevents⟩ := ih (reply past request limit) (past ++ [.sent request limit])
      exact ⟨.sent request limit :: events, hevents.trans (List.append_assoc _ _ _)⟩
  | note event rest ih =>
      obtain ⟨events, hevents⟩ := ih (past ++ [.noted event])
      exact ⟨.noted event :: events, hevents.trans (List.append_assoc _ _ _)⟩

/-- Whether the rest of a program is of some kind once a request with a limit has no reply in time;
the kind may depend on the request. -/
def OnTimeout (kind : Request → Program α → Prop) : Program α → Prop
  | .done _ => True
  | .ask request limit next =>
    (limit ≠ none → kind request (next .timedOut)) ∧ ∀ reply, (next reply).OnTimeout kind
  | .note _ rest => rest.OnTimeout kind

variable {kind : Request → Program α → Prop} {kind' : Request → Program β → Prop}

theorem onTimeout_pure (value : α) : (pure value : Program α).OnTimeout kind :=
  trivial

theorem onTimeout_bind {program : Program α} {next : α → Program β}
    (hprogram : program.OnTimeout kind) (hlate : ∀ r rest, kind r rest → kind' r (rest >>= next))
    (hnext : ∀ value, (next value).OnTimeout kind') : (program >>= next).OnTimeout kind' := by
  induction program with
  | done value => exact hnext value
  | ask request limit rest ih =>
      exact ⟨fun hlimit => hlate _ _ (hprogram.1 hlimit), fun reply => ih reply (hprogram.2 reply)⟩
  | note event rest ih => exact ih hprogram

theorem onTimeout_leave_bind {event : Note} {next : Unit → Program α}
    (hnext : (next ()).OnTimeout kind) : (leave event >>= next).OnTimeout kind :=
  hnext

/-- A run that has no reply in time goes on with a rest of the kind. -/
theorem run_eq_of_timedOut {program : Program α} (h : program.OnTimeout kind)
    {before after : List Event} {r : Request} {limit : Duration}
    (hrun : (run reply past program).1 = past ++ before ++ .sent r (some limit) :: after)
    (hreply : reply (past ++ before) r (some limit) = .timedOut) :
    ∃ rest, kind r rest ∧
      run reply past program = run reply (past ++ before ++ [.sent r (some limit)]) rest := by
  induction program generalizing past before with
  | done value =>
      have hlength := congrArg List.length hrun
      simp [run] at hlength
  | ask request wait next ih =>
      change (run reply (past ++ [.sent request wait]) (next (reply past request wait))).1 = _ at hrun
      -- The first request of the program is the late one, or stands in front of it.
      obtain ⟨events, hevents⟩ := exists_run_eq_append reply (next (reply past request wait))
        (past ++ [.sent request wait])
      rw [hevents, List.append_assoc, List.append_assoc] at hrun
      have hsplit := List.append_cancel_left hrun
      cases before with
      | nil =>
          cases hsplit
          rw [List.append_nil] at hreply
          refine ⟨next .timedOut, h.1 (by simp), ?_⟩
          rw [List.append_nil, ← hreply]
          rfl
      | cons event before =>
          cases hsplit
          have hmore : past ++ .sent request wait :: before = past ++ [.sent request wait] ++ before := by
            simp
          rw [hmore] at hreply ⊢
          exact ih _ (h.2 _) (hevents.trans (List.append_assoc _ _ _).symm) hreply
  | note event rest ih =>
      change (run reply (past ++ [.noted event]) rest).1 = _ at hrun
      obtain ⟨events, hevents⟩ := exists_run_eq_append reply rest (past ++ [.noted event])
      rw [hevents, List.append_assoc, List.append_assoc] at hrun
      have hsplit := List.append_cancel_left hrun
      cases before with
      | nil => cases hsplit
      | cons other before =>
          cases hsplit
          have hmore : past ++ .noted event :: before = past ++ [.noted event] ++ before := by simp
          rw [hmore] at hreply ⊢
          exact ih h (hevents.trans (List.append_assoc _ _ _).symm) hreply

end Program

open Program (OnTimeout onTimeout_bind onTimeout_leave_bind onTimeout_pure)

variable {gateway : GatewayRef} {limit : Duration} {model : Model} {now : String}

/-! ## Calls of backends -/

section Calls

variable {ε δ : Type} {r : Request} {rest : Program (Except BackendError ε)}
  {next : Except BackendError ε → Program (Except BackendError δ)}

/-- A call of a backend has ended, because the reply to a request was late. -/
def IsLate (limit : Duration) (rest : Program (Except BackendError ε)) : Prop :=
  rest = pure (.error (.timeout limit))

/-- A call of a backend has ended, because the reply to a read was late. -/
def IsLateRead (limit : Duration) (r : Request) (rest : Program (Except BackendError ε)) : Prop :=
  r.isRead = true ∧ IsLate limit rest

theorem IsLate.bind (h : IsLate limit rest)
    (hnext : next (.error (.timeout limit)) = pure (.error (.timeout limit))) :
    IsLate limit (rest >>= next) := by
  rw [IsLate] at h
  rw [h]
  exact hnext

theorem IsLateRead.bind (h : IsLateRead limit r rest)
    (hnext : next (.error (.timeout limit)) = pure (.error (.timeout limit))) :
    IsLateRead limit r (rest >>= next) :=
  ⟨h.1, h.2.bind hnext⟩

end Calls

namespace Program

theorem onTimeout_request (r : Request) :
    (request r limit).OnTimeout fun other rest => other = r ∧ IsLate limit rest := by
  unfold request send
  split
  · exact onTimeout_pure _
  · refine ⟨fun _ => ⟨rfl, rfl⟩, ?_⟩
    intro reply
    cases reply <;> exact onTimeout_pure _

theorem onTimeout_find {r : Request} (hread : r.isRead = true) :
    (find r limit).OnTimeout (IsLateRead limit) := by
  refine onTimeout_bind (onTimeout_request r) ?_ ?_
  · rintro other rest ⟨rfl, hlate⟩
    exact ⟨hread, hlate.bind rfl⟩
  · intro found
    split
    · exact onTimeout_pure _
    · split <;> exact onTimeout_pure _
    · exact onTimeout_pure _

end Program

open Program (onTimeout_find onTimeout_request)

namespace InferenceBackend

theorem onTimeout_getService : (getService limit model).OnTimeout (IsLateRead limit) := by
  unfold getService
  split
  · exact onTimeout_pure _
  · refine onTimeout_bind (onTimeout_find rfl) (fun r rest h => h.bind rfl) ?_
    intro found
    split <;> exact onTimeout_pure _

theorem onTimeout_hostnames (route : HttpRoute) :
    (hostnames limit route gateway).OnTimeout (IsLateRead limit) := by
  unfold hostnames
  split
  · refine onTimeout_bind (onTimeout_find rfl) (fun r rest h => h.bind rfl) ?_
    intro found
    split <;> exact onTimeout_pure _
  · exact onTimeout_pure _

theorem onTimeout_observeRoute (service : InferenceService) :
    (observeRoute gateway limit model service).OnTimeout (IsLateRead limit) := by
  unfold observeRoute
  split
  · exact onTimeout_pure _
  · refine onTimeout_bind (onTimeout_find rfl) (fun r rest h => h.bind rfl) ?_
    intro found
    split
    · exact onTimeout_pure _
    · exact onTimeout_pure _
    · split
      · exact onTimeout_pure _
      · refine onTimeout_bind (onTimeout_hostnames _) (fun r rest h => h.bind rfl) ?_
        intro names
        split <;> exact onTimeout_pure _

theorem onTimeout_reconcileRoute :
    (reconcileRoute gateway limit model).OnTimeout (IsLateRead limit) := by
  refine onTimeout_bind onTimeout_getService (fun r rest h => h.bind rfl) ?_
  intro found
  split
  · exact onTimeout_pure _
  · exact onTimeout_observeRoute _

theorem onTimeout_status (route : RouteReference) :
    (status limit model route).OnTimeout (IsLateRead limit) := by
  refine onTimeout_bind onTimeout_getService (fun r rest h => h.bind rfl) ?_
  intro found
  split <;> exact onTimeout_pure _

end InferenceBackend

namespace ExternalBackend

theorem onTimeout_deleteRoute (id : ObjectId) (route : HttpRoute) :
    (deleteRoute limit id route).OnTimeout fun _ rest => IsLate limit rest := by
  refine onTimeout_bind (onTimeout_request _) (fun r rest h => h.2.bind rfl) ?_
  intro deleted
  split
  · split <;> exact onTimeout_pure _
  · exact onTimeout_pure _

theorem onTimeout_deleteIfControlled (id : ObjectId) :
    (deleteIfControlled limit id model).OnTimeout fun _ rest => IsLate limit rest := by
  refine onTimeout_bind (onTimeout_find rfl) (fun r rest h => h.2.bind rfl) ?_
  intro found
  split
  · exact onTimeout_pure _
  · exact onTimeout_pure _
  · split
    · exact onTimeout_deleteRoute id _
    · exact onTimeout_pure _

theorem onTimeout_cleanup : (cleanup limit model).OnTimeout fun _ rest => IsLate limit rest := by
  unfold cleanup
  split
  · exact onTimeout_pure _
  · exact onTimeout_deleteIfControlled _

end ExternalBackend

namespace Evaluation

/-- The evaluation of a model whose backend did not have a reply in time. -/
def late (limit : Duration) (now : String) (model : Model) (route : Option RouteReference)
    (reason : String) : Evaluation :=
  failed model route reason (.timeout limit) now

theorem phase_late (route : Option RouteReference) (reason : String) :
    (late limit now model route reason).status.phase = some .failed :=
  rfl

/-- An evaluation has ended, because a read was too slow. -/
inductive IsEndedLate (limit : Duration) (now : String) (model : Model) :
    Request → Program Evaluation → Prop
  | intro {r : Request} (hread : r.isRead = true) (route : Option RouteReference)
      (reason : String) : IsEndedLate limit now model r (pure (late limit now model route reason))

/-- An evaluation ends with the first late reply that its backend meets. -/
theorem onTimeout_withBackend {backend : Backend}
    (hroute : (backend.reconcileRoute model).OnTimeout (IsLateRead limit))
    (hstatus : ∀ route, (backend.status model route).OnTimeout (IsLateRead limit)) :
    (withBackend backend model now).OnTimeout (IsEndedLate limit now model) := by
  refine onTimeout_leave_bind (onTimeout_bind hroute ?_ ?_)
  · rintro r rest ⟨hread, rfl⟩
    exact .intro hread none "ReconcileFailed"
  · intro routed
    split
    · exact onTimeout_pure _
    · refine onTimeout_leave_bind (onTimeout_bind (hstatus _) ?_ ?_)
      · rintro r rest ⟨hread, rfl⟩
        exact .intro hread _ "StatusFailed"
      · intro found
        split <;> exact onTimeout_pure _

end Evaluation

end ModelGate

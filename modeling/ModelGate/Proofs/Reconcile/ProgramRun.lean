import Mathlib
import ModelGate.Reconcile.Backend

/-!
# Runs of programs

A run of a program adds to the trace of what happened before it, and `run_bind` puts the runs of
its parts together.  A silent program adds nothing but requests (`run_of_isSilent`), and a program
whose requests are all allowed adds no other ones (`allowed_of_sent_mem`).
-/

namespace ModelGate

namespace Reply

variable {α : Type} {limit : Duration}

/-- What a backend makes of a reply. -/
def result (limit : Duration) : Reply α → Except BackendError α
  | answered answer => .ok answer
  | failed error => .error (.request error)
  | timedOut => .error (.timeout limit)

/-- What a backend makes of the reply to a request for an object that may be missing. -/
def found (limit : Duration) : Reply α → Except BackendError (Option α)
  | answered answer => .ok (some answer)
  | failed (.refused e) => if e.isNotFound then .ok none else .error (.request (.refused e))
  | failed error => .error (.request error)
  | timedOut => .error (.timeout limit)

theorem found_eq_some_iff {reply : Reply α} {answer : α} :
    reply.found limit = .ok (some answer) ↔ reply = .answered answer := by
  cases reply with
  | answered other => simp [found]
  | failed error =>
      cases error with
      | refused e =>
          dsimp only [found]
          split <;> simp
      | unreadable => simp [found]
      | unnamed => simp [found]
  | timedOut => simp [found]

variable {reply : Reply α} {error : BackendError}

theorem result_eq_ok_iff {answer : α} : reply.result limit = .ok answer ↔ reply = .answered answer := by
  cases reply <;> simp [result]

theorem eq_failed_of_result {failure : RequestError}
    (h : reply.result limit = .error (.request failure)) : reply = .failed failure := by
  cases reply with
  | answered answer => cases h
  | failed other =>
      cases h
      rfl
  | timedOut => cases h

/-- What fails is the request or its time limit, not the backend. -/
theorem isNotImplemented_of_result (h : reply.result limit = .error error) :
    error.isNotImplemented = false := by
  cases reply with
  | answered answer => cases h
  | failed failure =>
      cases h
      rfl
  | timedOut =>
      cases h
      rfl

/-- An object counts as missing only if the API server says so. -/
theorem missing_of_found (h : reply.found limit = .ok none) :
    ∃ e, reply = .failed (.refused e) ∧ e.isNotFound = true := by
  cases reply with
  | answered answer => cases h
  | failed failure =>
      cases failure with
      | refused e =>
          change (if e.isNotFound then _ else _) = _ at h
          split at h
          · next hmissing => exact ⟨e, rfl, hmissing⟩
          · cases h
      | unreadable => cases h
      | unnamed => cases h
  | timedOut => cases h

/-- Every other failure of a request for an object is passed on. -/
theorem result_of_found (h : reply.found limit = .error error) :
    reply.result limit = .error error ∧
      ∀ e, error = .request (.refused e) → e.isNotFound = false := by
  cases reply with
  | answered answer => cases h
  | failed failure =>
      cases failure with
      | refused e =>
          change (if e.isNotFound then _ else _) = _ at h
          split at h
          · cases h
          · next hother =>
              cases h
              refine ⟨rfl, fun other hsame => ?_⟩
              cases hsame
              simpa using hother
      | unreadable =>
          cases h
          exact ⟨rfl, nofun⟩
      | unnamed =>
          cases h
          exact ⟨rfl, nofun⟩
  | timedOut =>
      cases h
      exact ⟨rfl, nofun⟩

end Reply

namespace Program

/-- How requests are replied to; a reply may depend on everything before it. -/
abbrev Replies :=
  List Event → (request : Request) → Option Duration → Reply request.Answer

/-- The trace of some requests. -/
def requests (sent : List (Request × Option Duration)) : List Event :=
  sent.map fun s => .sent s.1 s.2

@[simp]
theorem noted_notMem_requests (note : Note) (sent : List (Request × Option Duration)) :
    .noted note ∉ requests sent := by
  intro hmem
  obtain ⟨s, -, hs⟩ := List.mem_map.1 hmem
  cases hs

variable {α β : Type} {reply : Replies} {past : List Event}

theorem run_bind (program : Program α) (next : α → Program β) (past : List Event) :
    run reply past (program >>= next) =
      run reply (run reply past program).1 (next (run reply past program).2) := by
  induction program generalizing past with
  | done value => rfl
  | ask request limit rest ih => exact ih _ _
  | note event rest ih => exact ih _

/-- A program that passes errors on has a result only if its first part has one. -/
theorem run_bind_of_ok {ε : Type} {program : Program (Except ε α)}
    {next : Except ε α → Program (Except ε β)} {b : β}
    (h : (run reply past (program >>= next)).2 = .ok b)
    (hnext : ∀ error, next (.error error) = pure (.error error)) :
    ∃ a, (run reply past program).2 = .ok a ∧
      run reply past (program >>= next) = run reply (run reply past program).1 (next (.ok a)) := by
  rw [run_bind] at h ⊢
  cases hfirst : (run reply past program).2 with
  | error error =>
      rw [hfirst, hnext] at h
      cases h
  | ok a => exact ⟨a, rfl, rfl⟩

theorem run_pure (value : α) : run reply past (pure value) = (past, value) :=
  rfl

theorem run_leave (event : Note) : run reply past (leave event) = (past ++ [.noted event], ()) :=
  rfl

theorem run_send_of_named {request : Request} (limit : Option Duration)
    (h : request.target.name ≠ "") :
    run reply past (send request limit) =
      (past ++ [.sent request limit], reply past request limit) := by
  unfold send
  rw [if_neg h]
  rfl

theorem run_send_of_unnamed {request : Request} (limit : Option Duration)
    (h : request.target.name = "") :
    run reply past (send request limit) = (past, .failed .unnamed) := by
  unfold send
  rw [if_pos h]
  rfl

/-- A silent program only adds requests. -/
theorem run_of_isSilent (reply : Replies) {program : Program α} (h : program.IsSilent)
    (past : List Event) :
    ∃ sent, (run reply past program).1 = past ++ requests sent := by
  induction program generalizing past with
  | done value => exact ⟨[], by simp [run, requests]⟩
  | ask request limit rest ih =>
      -- The rest of the program runs behind the request, with the reply to it.
      obtain ⟨sent, hsent⟩ := ih _ (h _) (past ++ [.sent request limit])
      refine ⟨(request, limit) :: sent, ?_⟩
      change (run reply (past ++ [.sent request limit]) _).1 = _
      rw [hsent]
      simp [requests]
  | note event rest ih => exact h.elim

/-- A request on behalf of a backend is a single one. -/
theorem request_eq_ask {r : Request} (limit : Duration) (h : r.target.name ≠ "") :
    request r limit = .ask r (some limit) fun reply => .done (reply.result limit) := by
  unfold request send
  rw [if_neg h]
  refine congrArg (Program.ask r (some limit)) (funext fun reply => ?_)
  cases reply <;> rfl

theorem run_request_of_named {r : Request} (limit : Duration) (h : r.target.name ≠ "") :
    run reply past (request r limit) =
      (past ++ [.sent r (some limit)], (reply past r (some limit)).result limit) := by
  rw [request_eq_ask limit h]
  rfl

theorem run_request_of_unnamed {r : Request} (limit : Duration) (h : r.target.name = "") :
    run reply past (request r limit) = (past, .error (.request .unnamed)) := by
  unfold request
  rw [run_bind, run_send_of_unnamed _ h]
  rfl

/-- So is one for an object that may be missing. -/
theorem find_eq_ask {r : Request} (limit : Duration) (h : r.target.name ≠ "") :
    find r limit = .ask r (some limit) fun reply => .done (reply.found limit) := by
  unfold find
  rw [request_eq_ask limit h]
  refine congrArg (Program.ask r (some limit)) (funext fun reply => ?_)
  cases reply with
  | answered answer => rfl
  | failed error =>
      cases error with
      | refused e =>
          change (if e.isNotFound then _ else _ : Program _) = .done (if e.isNotFound then _ else _)
          split <;> rfl
      | unreadable => rfl
      | unnamed => rfl
  | timedOut => rfl

theorem run_find_of_named {r : Request} (limit : Duration) (h : r.target.name ≠ "") :
    run reply past (find r limit) =
      (past ++ [.sent r (some limit)], (reply past r (some limit)).found limit) := by
  rw [find_eq_ask limit h]
  rfl

theorem run_find_of_unnamed {r : Request} (limit : Duration) (h : r.target.name = "") :
    run reply past (find r limit) = (past, .error (.request .unnamed)) := by
  unfold find
  rw [run_bind, run_request_of_unnamed limit h]
  rfl

/-- An object was found if and only if the request was sent and answered with it. -/
theorem run_find_eq_some {r : Request} {limit : Duration} {answer : r.Answer}
    (h : (run reply past (find r limit)).2 = .ok (some answer)) :
    (run reply past (find r limit)).1 = past ++ [.sent r (some limit)] ∧
      reply past r (some limit) = .answered answer := by
  by_cases hname : r.target.name = ""
  · rw [run_find_of_unnamed limit hname] at h
    cases h
  · rw [run_find_of_named limit hname] at h ⊢
    exact ⟨rfl, Reply.found_eq_some_iff.1 h⟩

/-! ## What programs ask -/

/-- Whether all requests of a program are allowed, whatever the replies are. -/
def Asks (allowed : Request → Option Duration → Prop) : Program α → Prop
  | .done _ => True
  | .ask request limit next => allowed request limit ∧ ∀ reply, (next reply).Asks allowed
  | .note _ rest => rest.Asks allowed

variable {allowed : Request → Option Duration → Prop}

theorem asks_pure (value : α) : (pure value : Program α).Asks allowed :=
  trivial

theorem asks_leave (event : Note) : (leave event).Asks allowed :=
  trivial

theorem asks_bind {program : Program α} {next : α → Program β} (hprogram : program.Asks allowed)
    (hnext : ∀ value, (next value).Asks allowed) : (program >>= next).Asks allowed := by
  induction program with
  | done value => exact hnext value
  | ask request limit rest ih =>
      exact ⟨hprogram.1, fun reply => ih reply (hprogram.2 reply)⟩
  | note event rest ih => exact ih hprogram

theorem Asks.mono {others : Request → Option Duration → Prop} {program : Program α}
    (h : program.Asks allowed) (himp : ∀ r limit, allowed r limit → others r limit) :
    program.Asks others := by
  induction program with
  | done value => trivial
  | ask request limit rest ih => exact ⟨himp request limit h.1, fun reply => ih reply (h.2 reply)⟩
  | note event rest ih => exact ih h

theorem asks_send {request : Request} {limit : Option Duration} (h : allowed request limit) :
    (send request limit).Asks allowed := by
  unfold send
  split
  · trivial
  · exact ⟨h, fun _ => trivial⟩

theorem asks_request {r : Request} {limit : Duration} (h : allowed r (some limit)) :
    (request r limit).Asks allowed := by
  refine asks_bind (asks_send h) ?_
  intro reply
  cases reply <;> trivial

theorem asks_find {r : Request} {limit : Duration} (h : allowed r (some limit)) :
    (find r limit).Asks allowed := by
  refine asks_bind (asks_request h) ?_
  intro found
  split
  · trivial
  · split <;> trivial
  · trivial

/-- What a run sends is allowed, unless it was sent before. -/
theorem allowed_of_sent_mem {program : Program α} (h : program.Asks allowed) {r : Request}
    {limit : Option Duration} (hsent : .sent r limit ∈ (run reply past program).1) :
    .sent r limit ∈ past ∨ allowed r limit := by
  induction program generalizing past with
  | done value => exact Or.inl hsent
  | ask request wait rest ih =>
      rcases ih _ (h.2 _) hsent with hpast | hallowed
      · rcases List.mem_append.1 hpast with hbefore | hlast
        · exact Or.inl hbefore
        · cases List.mem_singleton.1 hlast
          exact Or.inr h.1
      · exact Or.inr hallowed
  | note event rest ih =>
      rcases ih h hsent with hpast | hallowed
      · rcases List.mem_append.1 hpast with hbefore | hlast
        · exact Or.inl hbefore
        · cases List.mem_singleton.1 hlast
      · exact Or.inr hallowed

theorem allowed_of_sent {program : Program α} (h : program.Asks allowed) {r : Request}
    {limit : Option Duration} (hsent : .sent r limit ∈ (run reply [] program).1) :
    allowed r limit := by
  rcases allowed_of_sent_mem h hsent with hpast | hallowed
  · cases hpast
  · exact hallowed

end Program

end ModelGate

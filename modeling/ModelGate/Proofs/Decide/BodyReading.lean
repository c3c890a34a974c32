import Mathlib
import ModelGate.Proofs.Decide.Accounting

/-!
# What decides about a request body

Chunks that are harmless hold bytes within the limit and no error.  The first chunk that is not
decides about its body, and so does the end of a body behind harmless chunks (`DecidedBy`).  Neither
the decision nor its time depends on what would come behind it, and a body that hangs behind
harmless chunks is never decided.

The deadline counts from the start of the request, whatever arrives in between, and what arrives at
the deadline is still in time.  `post_readsBody` says which answer a request to an endpoint gets.
How a body is split into chunks has no influence other than through the time of its end.
-/

namespace ModelGate

namespace Body

variable {deadline time : Duration} {hangs : Bool} {before chunks rest : List Chunk} {chunk : Chunk}
  {bytes piece : List UInt8} {body : Body} {outcome : Except BodyError (List UInt8)}

/-- The time at which the last of some chunks arrives. -/
def arrival (chunks : List Chunk) : Duration :=
  (chunks.map (·.delay)).sum

/-- The chunks hold no error and, one behind the other, the given bytes. -/
inductive Holds : List Chunk → List UInt8 → Prop
  | nil : Holds [] []
  | cons {chunk : Chunk} {rest : List Chunk} {piece bytes : List UInt8}
      (hchunk : chunk.content = .ok piece) (hrest : Holds rest bytes) :
      Holds (chunk :: rest) (piece ++ bytes)

/-- The first event that decides about a body, its time and the outcome. -/
inductive DecidedBy : Body → Duration → Except BodyError (List UInt8) → Prop
  | tooLarge {before rest : List Chunk} {chunk : Chunk} {bytes piece : List UInt8} {hangs : Bool}
      (hbefore : Holds before bytes) (hfits : bytes.length ≤ maxBytes)
      (hchunk : chunk.content = .ok piece) (hlarge : maxBytes < bytes.length + piece.length) :
      DecidedBy ⟨before ++ chunk :: rest, hangs⟩ (arrival (before ++ [chunk])) (.error .tooLarge)
  | failed {before rest : List Chunk} {chunk : Chunk} {bytes : List UInt8} {text : String}
      {hangs : Bool} (hbefore : Holds before bytes) (hfits : bytes.length ≤ maxBytes)
      (hchunk : chunk.content = .error text) :
      DecidedBy ⟨before ++ chunk :: rest, hangs⟩ (arrival (before ++ [chunk]))
        (.error (.failed text))
  | ended {chunks : List Chunk} {bytes : List UInt8} (h : Holds chunks bytes)
      (hfits : bytes.length ≤ maxBytes) : DecidedBy ⟨chunks, false⟩ (arrival chunks) (.ok bytes)

theorem arrival_cons : arrival (chunk :: rest) = chunk.delay + arrival rest := by
  simp [arrival]

theorem arrival_append_singleton : arrival (before ++ [chunk]) = arrival before + chunk.delay := by
  simp [arrival]

theorem Holds.append_singleton (hbefore : Holds before bytes) (hchunk : chunk.content = .ok piece) :
    Holds (before ++ [chunk]) (bytes ++ piece) := by
  induction hbefore with
  | nil => simpa using Holds.cons hchunk .nil
  | cons hfirst hrest ih =>
      rw [List.append_assoc]
      exact .cons hfirst ih

/-- A body is decided, or it hangs behind harmless chunks. -/
theorem decided_or_hangs (chunks : List Chunk) (hangs : Bool) :
    (∃ time outcome, DecidedBy ⟨chunks, hangs⟩ time outcome) ∨
      (hangs = true ∧ ∃ bytes, Holds chunks bytes ∧ bytes.length ≤ maxBytes) := by
  have hsplit : (∃ bytes, Holds chunks bytes ∧ bytes.length ≤ maxBytes) ∨
      ∃ time outcome, ∀ rest, DecidedBy ⟨chunks ++ rest, hangs⟩ time outcome := by
    induction chunks using List.reverseRecOn with
    | nil => exact Or.inl ⟨[], .nil, by simp⟩
    | append_singleton before chunk ih =>
        rcases ih with ⟨bytes, hbefore, hfits⟩ | ⟨time, outcome, h⟩
        · cases hchunk : chunk.content with
          | error text =>
              refine Or.inr ⟨arrival (before ++ [chunk]), .error (.failed text), fun rest => ?_⟩
              rw [List.append_assoc]
              exact .failed hbefore hfits hchunk
          | ok piece =>
              by_cases hlarge : maxBytes < bytes.length + piece.length
              · refine Or.inr ⟨arrival (before ++ [chunk]), .error .tooLarge, fun rest => ?_⟩
                rw [List.append_assoc]
                exact .tooLarge hbefore hfits hchunk hlarge
              · refine Or.inl ⟨_, hbefore.append_singleton hchunk, ?_⟩
                rw [List.length_append]
                omega
        · refine Or.inr ⟨time, outcome, fun rest => ?_⟩
          rw [List.append_assoc]
          exact h ([chunk] ++ rest)
  rcases hsplit with ⟨bytes, hbytes, hfits⟩ | ⟨time, outcome, h⟩
  · cases hangs with
    | true => exact Or.inr ⟨rfl, bytes, hbytes, hfits⟩
    | false => exact Or.inl ⟨_, _, .ended hbytes hfits⟩
  · exact Or.inl ⟨time, outcome, by simpa using h []⟩

/-! ## The reader -/

section Steps

variable {past : List (List UInt8)} {size : ℕ} {elapsed : Duration}

theorem readFrom_cons_of_late (hlate : deadline < elapsed + chunk.delay) :
    readFrom deadline hangs past size elapsed (chunk :: rest) = ⟨.error .timedOut, deadline⟩ := by
  rw [readFrom, if_pos hlate]

theorem readFrom_cons_of_error {text : String} (hintime : elapsed + chunk.delay ≤ deadline)
    (hchunk : chunk.content = .error text) :
    readFrom deadline hangs past size elapsed (chunk :: rest) =
      ⟨.error (.failed text), elapsed + chunk.delay⟩ := by
  rw [readFrom, if_neg (Nat.not_lt.2 hintime), hchunk]

theorem readFrom_cons_of_large (hintime : elapsed + chunk.delay ≤ deadline)
    (hchunk : chunk.content = .ok piece) (hlarge : maxBytes < size + piece.length) :
    readFrom deadline hangs past size elapsed (chunk :: rest) =
      ⟨.error .tooLarge, elapsed + chunk.delay⟩ := by
  rw [readFrom, if_neg (Nat.not_lt.2 hintime), hchunk]
  exact if_pos hlarge

theorem readFrom_cons_of_fits (hintime : elapsed + chunk.delay ≤ deadline)
    (hchunk : chunk.content = .ok piece) (hfits : size + piece.length ≤ maxBytes) :
    readFrom deadline hangs past size elapsed (chunk :: rest) =
      readFrom deadline hangs (piece :: past) (size + piece.length) (elapsed + chunk.delay)
        rest := by
  rw [readFrom, if_neg (Nat.not_lt.2 hintime), hchunk]
  exact if_neg (Nat.not_lt.2 hfits)

/-- The reader gets behind harmless chunks in time, and has their bytes then. -/
theorem readFrom_append (hbefore : Holds before bytes) (hfits : size + bytes.length ≤ maxBytes)
    (hintime : elapsed + arrival before ≤ deadline) :
    ∃ behind : List (List UInt8), behind.reverse.flatten = past.reverse.flatten ++ bytes ∧
      readFrom deadline hangs past size elapsed (before ++ rest) =
        readFrom deadline hangs behind (size + bytes.length) (elapsed + arrival before) rest := by
  induction hbefore generalizing past size elapsed with
  | nil => exact ⟨past, by simp, by simp [arrival]⟩
  | @cons chunk before piece bytes hchunk hrest ih =>
      rw [arrival_cons, ← Nat.add_assoc] at hintime ⊢
      rw [List.length_append, ← Nat.add_assoc] at hfits ⊢
      rw [List.cons_append, readFrom_cons_of_fits (Nat.le_of_add_right_le hintime) hchunk
        (Nat.le_of_add_right_le hfits)]
      obtain ⟨behind, hbehind, hread⟩ := ih hfits hintime
      exact ⟨behind, by rw [hbehind]; simp, hread⟩

/-- Harmless chunks that are late are not waited for. -/
theorem readFrom_of_late (hbefore : Holds before bytes) (hfits : size + bytes.length ≤ maxBytes)
    (hintime : elapsed ≤ deadline) (hlate : deadline < elapsed + arrival before) :
    readFrom deadline hangs past size elapsed (before ++ rest) = ⟨.error .timedOut, deadline⟩ := by
  induction hbefore generalizing past size elapsed with
  | nil => exact absurd hlate (Nat.not_lt.2 (by simpa [arrival] using hintime))
  | @cons chunk before piece bytes hchunk hrest ih =>
      rw [arrival_cons, ← Nat.add_assoc] at hlate
      rw [List.length_append, ← Nat.add_assoc] at hfits
      rw [List.cons_append]
      by_cases hfirst : deadline < elapsed + chunk.delay
      · exact readFrom_cons_of_late hfirst
      · rw [readFrom_cons_of_fits (Nat.not_lt.1 hfirst) hchunk (Nat.le_of_add_right_le hfits)]
        exact ih hfits (Nat.not_lt.1 hfirst) hlate

end Steps

theorem read_append (hbefore : Holds before bytes) (hfits : bytes.length ≤ maxBytes)
    (hintime : arrival before ≤ deadline) (rest : List Chunk) (hangs : Bool) :
    ∃ behind : List (List UInt8), behind.reverse.flatten = bytes ∧
      read deadline ⟨before ++ rest, hangs⟩ =
        readFrom deadline hangs behind bytes.length (arrival before) rest := by
  have hread : ∃ behind : List (List UInt8),
      behind.reverse.flatten = ([] : List (List UInt8)).reverse.flatten ++ bytes ∧
      readFrom deadline hangs [] 0 0 (before ++ rest) =
        readFrom deadline hangs behind (0 + bytes.length) (0 + arrival before) rest :=
    readFrom_append hbefore (by rwa [Nat.zero_add])
      (show 0 + arrival before ≤ deadline by rwa [Nat.zero_add])
  simpa only [read, Nat.zero_add, List.reverse_nil, List.flatten_nil, List.nil_append] using hread

theorem read_of_late (hbefore : Holds before bytes) (hfits : bytes.length ≤ maxBytes)
    (hlate : deadline < arrival before) (rest : List Chunk) (hangs : Bool) :
    read deadline ⟨before ++ rest, hangs⟩ = ⟨.error .timedOut, deadline⟩ :=
  readFrom_of_late hbefore (by rwa [Nat.zero_add]) (Nat.zero_le deadline) (by rwa [Nat.zero_add])

/-- A chunk that decides is looked at if it arrives in time. -/
theorem read_of_decisive {error : BodyError} (hbefore : Holds before bytes)
    (hfits : bytes.length ≤ maxBytes)
    (hdecisive : ∀ behind : List (List UInt8), arrival before + chunk.delay ≤ deadline →
      readFrom deadline hangs behind bytes.length (arrival before) (chunk :: rest) =
        ⟨.error error, arrival before + chunk.delay⟩) :
    read deadline ⟨before ++ chunk :: rest, hangs⟩ =
      if arrival (before ++ [chunk]) ≤ deadline then ⟨.error error, arrival (before ++ [chunk])⟩
      else ⟨.error .timedOut, deadline⟩ := by
  rw [arrival_append_singleton]
  by_cases hearlier : arrival before ≤ deadline
  · obtain ⟨behind, -, hread⟩ := read_append hbefore hfits hearlier (chunk :: rest) hangs
    rw [hread]
    by_cases hintime : arrival before + chunk.delay ≤ deadline
    · rw [if_pos hintime, hdecisive behind hintime]
    · rw [if_neg hintime, readFrom_cons_of_late (Nat.not_le.1 hintime)]
  · rw [read_of_late hbefore hfits (Nat.not_le.1 hearlier),
      if_neg fun hintime => hearlier (Nat.le_of_add_right_le hintime)]

/-- The end of a body behind harmless chunks is seen if there is one in time. -/
theorem read_of_holds (hholds : Holds chunks bytes) (hfits : bytes.length ≤ maxBytes)
    (deadline : Duration) (hangs : Bool) :
    read deadline ⟨chunks, hangs⟩ =
      if arrival chunks ≤ deadline ∧ hangs = false then ⟨.ok bytes, arrival chunks⟩
      else ⟨.error .timedOut, deadline⟩ := by
  rw [← List.append_nil chunks]
  by_cases hintime : arrival chunks ≤ deadline
  · obtain ⟨behind, hbehind, hread⟩ := read_append hholds hfits hintime [] hangs
    rw [hread, List.append_nil]
    cases hangs with
    | true => rw [if_neg (by simp)]; rfl
    | false => rw [if_pos ⟨hintime, rfl⟩, ← hbehind]; rfl
  · rw [read_of_late hholds hfits (Nat.not_le.1 hintime) [] hangs, List.append_nil,
      if_neg fun h => hintime h.1]

/-- The first decision counts if it comes in time. -/
theorem read_of_decidedBy (h : DecidedBy body time outcome) (deadline : Duration) :
    read deadline body =
      if time ≤ deadline then ⟨outcome, time⟩ else ⟨.error .timedOut, deadline⟩ := by
  cases h with
  | tooLarge hbefore hfits hchunk hlarge =>
      exact read_of_decisive hbefore hfits
        fun _ hintime => readFrom_cons_of_large hintime hchunk hlarge
  | failed hbefore hfits hchunk =>
      exact read_of_decisive hbefore hfits fun _ hintime => readFrom_cons_of_error hintime hchunk
  | ended hholds hfits => simpa using read_of_holds hholds hfits deadline false

/-- A body that hangs behind harmless chunks is given up at the deadline. -/
theorem read_of_hangs (hholds : Holds chunks bytes) (hfits : bytes.length ≤ maxBytes)
    (deadline : Duration) : read deadline ⟨chunks, true⟩ = ⟨.error .timedOut, deadline⟩ := by
  simpa using read_of_holds hholds hfits deadline true

theorem read_of_undecided (h : ∀ time outcome, DecidedBy body time outcome → deadline < time) :
    read deadline body = ⟨.error .timedOut, deadline⟩ := by
  obtain ⟨chunks, hangs⟩ := body
  rcases decided_or_hangs chunks hangs with ⟨time, outcome, hdecided⟩ | ⟨rfl, bytes, hholds, hfits⟩
  · rw [read_of_decidedBy hdecided, if_neg (Nat.not_le.2 (h time outcome hdecided))]
  · exact read_of_hangs hholds hfits deadline

/-- There is one first decision. -/
theorem DecidedBy.unique {time' : Duration} {outcome' : Except BodyError (List UInt8)}
    (h : DecidedBy body time outcome) (h' : DecidedBy body time' outcome') :
    time = time' ∧ outcome = outcome' := by
  -- A deadline behind both shows both.
  have hread := read_of_decidedBy h (max time time')
  rw [read_of_decidedBy h' (max time time'), if_pos (le_max_right _ _),
    if_pos (le_max_left _ _)] at hread
  cases hread
  exact ⟨rfl, rfl⟩

/-! ## Bodies without an end -/

/-- The first chunks of a sequence, behind which nothing arrives. -/
def upTo (chunks : ℕ → Chunk) (n : ℕ) : Body :=
  ⟨(List.range n).map chunks, true⟩

theorem DecidedBy.append (h : DecidedBy ⟨chunks, true⟩ time outcome) (rest : List Chunk)
    (hangs : Bool) : DecidedBy ⟨chunks ++ rest, hangs⟩ time outcome := by
  generalize hbody : (⟨chunks, true⟩ : Body) = body at h
  cases h with
  | tooLarge hbefore hfits hchunk hlarge =>
      cases hbody
      rw [List.append_assoc, List.cons_append]
      exact .tooLarge hbefore hfits hchunk hlarge
  | failed hbefore hfits hchunk =>
      cases hbody
      rw [List.append_assoc, List.cons_append]
      exact .failed hbefore hfits hchunk
  | ended hholds hfits => cases hbody

/-- Whatever follows chunks that are decided or late, they are read alike. -/
theorem read_append_of_settled
    (h : deadline < arrival chunks ∨ ∃ time outcome, DecidedBy ⟨chunks, true⟩ time outcome)
    (rest : List Chunk) (hangs : Bool) :
    read deadline ⟨chunks ++ rest, hangs⟩ = read deadline ⟨chunks, true⟩ := by
  rcases decided_or_hangs chunks true with ⟨time, outcome, hdecided⟩ | ⟨-, bytes, hholds, hfits⟩
  · rw [read_of_decidedBy (hdecided.append rest hangs), read_of_decidedBy hdecided]
  · rcases h with hlate | ⟨time, outcome, hdecided⟩
    · rw [read_of_late hholds hfits hlate, read_of_hangs hholds hfits]
    · rw [read_of_decidedBy (hdecided.append rest hangs), read_of_decidedBy hdecided]

theorem read_upTo {chunks : ℕ → Chunk} {n m : ℕ} (hle : n ≤ m)
    (h : deadline < arrival (upTo chunks n).chunks ∨
      ∃ time outcome, DecidedBy (upTo chunks n) time outcome) :
    read deadline (upTo chunks m) = read deadline (upTo chunks n) := by
  obtain ⟨k, rfl⟩ := Nat.exists_eq_add_of_le hle
  unfold upTo at h ⊢
  rw [List.range_add, List.map_append]
  exact read_append_of_settled h _ _

end Body

/-- The request that poses a question to an endpoint. -/
def DecisionRequest.post (endpoint : Endpoint) (body : Body) : DecisionRequest :=
  ⟨"POST", endpoint.path, body⟩

namespace DecisionService

open Body

variable {s : DecisionService} {endpoint : Endpoint} {body : Body} {time : Duration}

/-- How a service reads the bodies of the questions that are posed to an endpoint. -/
structure ReadsBodies (s : DecisionService) (endpoint : Endpoint) : Prop where
  /-- There is at most one first decision about a body. -/
  decided_once : ∀ {body : Body} {time time' : Duration}
    {outcome outcome' : Except BodyError (List UInt8)}, DecidedBy body time outcome →
      DecidedBy body time' outcome' → time = time' ∧ outcome = outcome'
  too_large : ∀ {body : Body} {time : Duration}, DecidedBy body time (.error .tooLarge) →
    time ≤ s.readTimeout → s.handle (.post endpoint body) =
      (.ok (.error 413 "request body exceeds 65536 bytes"), (s.wait time).observe endpoint .tooLarge)
  failed : ∀ {body : Body} {time : Duration} {text : String},
    DecidedBy body time (.error (.failed text)) →
    time ≤ s.readTimeout → s.handle (.post endpoint body) =
      (.ok (.error 400 ("failed to read request body: " ++ text)),
        (s.wait time).observe endpoint .badRequest)
  ended : ∀ {body : Body} {time : Duration} {bytes : List UInt8}, DecidedBy body time (.ok bytes) →
    time ≤ s.readTimeout → s.handle (.post endpoint body) = (s.wait time).answer endpoint bytes
  timed_out : ∀ {body : Body},
    (∀ time outcome, DecidedBy body time outcome → s.readTimeout < time) →
    s.handle (.post endpoint body) =
      (.ok (.error 408 "timed out reading request body"),
        (s.wait s.readTimeout).observe endpoint .timeout)
  /-- What comes behind a decision or behind the deadline is not read, even if there is no end. -/
  endless : ∀ {chunks : ℕ → Chunk} {n m : ℕ}, n ≤ m →
    (s.readTimeout < arrival (upTo chunks n).chunks ∨
      ∃ time outcome, DecidedBy (upTo chunks n) time outcome) →
    s.handle (.post endpoint (upTo chunks m)) = s.handle (.post endpoint (upTo chunks n))
  /-- A whole body within the limit is accepted as its bytes. -/
  whole : ∀ {chunks : List Chunk} {bytes : List UInt8}, Holds chunks bytes →
    bytes.length ≤ 65536 → arrival chunks ≤ s.readTimeout →
    s.handle (.post endpoint ⟨chunks, false⟩) = (s.wait (arrival chunks)).answer endpoint bytes
  /-- However the bytes are split, they get the same response if they end at the same time.  The
  response on a model does not depend on the time either. -/
  same_response : ∀ {chunks chunks' : List Chunk} {bytes : List UInt8}, Holds chunks bytes →
    Holds chunks' bytes → bytes.length ≤ 65536 → arrival chunks ≤ s.readTimeout →
    arrival chunks' ≤ s.readTimeout →
    arrival chunks = arrival chunks' ∨ endpoint = .modelsAuthorize →
    (s.handle (.post endpoint ⟨chunks, false⟩)).1 = (s.handle (.post endpoint ⟨chunks', false⟩)).1

theorem handle_post (s : DecisionService) (endpoint : Endpoint) (body : Body) :
    s.handle (.post endpoint body) =
      match (body.read s.readTimeout).outcome with
      | .error error =>
        (.ok ((s.wait (body.read s.readTimeout).took).reject endpoint (.ofBody error)).1,
          ((s.wait (body.read s.readTimeout).took).reject endpoint (.ofBody error)).2)
      | .ok bytes => (s.wait (body.read s.readTimeout).took).answer endpoint bytes := by
  have hat : Endpoint.atPath? (DecisionRequest.post endpoint body).path = some endpoint :=
    Endpoint.atPath?_eq_some_iff.2 rfl
  unfold handle
  simp only [hat]
  rfl

theorem handle_post_of_error {error : BodyError} {took : Duration}
    (h : body.read s.readTimeout = ⟨.error error, took⟩) :
    s.handle (.post endpoint body) =
      (.ok ((s.wait took).reject endpoint (.ofBody error)).1,
        ((s.wait took).reject endpoint (.ofBody error)).2) := by
  rw [handle_post, h]

/-- The service answers to what it has read by the first decision. -/
theorem handle_post_of_decidedBy_error {error : BodyError} (h : DecidedBy body time (.error error))
    (hintime : time ≤ s.readTimeout) :
    s.handle (.post endpoint body) =
      (.ok ((s.wait time).reject endpoint (.ofBody error)).1,
        ((s.wait time).reject endpoint (.ofBody error)).2) := by
  refine handle_post_of_error ?_
  rw [read_of_decidedBy h, if_pos hintime]

theorem handle_post_of_decidedBy_ok {bytes : List UInt8} (h : DecidedBy body time (.ok bytes))
    (hintime : time ≤ s.readTimeout) :
    s.handle (.post endpoint body) = (s.wait time).answer endpoint bytes := by
  rw [handle_post, read_of_decidedBy h, if_pos hintime]

/-- Whether a model may be used does not depend on the time. -/
theorem authorizeModel_wait (s : DecisionService) (time : Duration) (bytes : List UInt8) :
    ((s.wait time).authorizeModel bytes).1 = (s.authorizeModel bytes).1 := by
  unfold authorizeModel
  cases ModelQuestion.ofBytes? bytes with
  | none => rfl
  | some question =>
      have hdecide : (s.wait time).decide question = s.decide question := rfl
      simp only [hdecide]
      cases s.decide question <;> rfl

/-- The body of a question is read up to its first decision or up to the deadline. -/
theorem post_readsBodies (s : DecisionService) (endpoint : Endpoint) :
    s.ReadsBodies endpoint where
  decided_once := DecidedBy.unique
  too_large := handle_post_of_decidedBy_error
  failed := handle_post_of_decidedBy_error
  ended := handle_post_of_decidedBy_ok
  timed_out := fun h => handle_post_of_error (read_of_undecided h)
  endless := by
    intro chunks n m hle h
    rw [handle_post, handle_post, read_upTo hle h]
  whole := fun hholds hfits hintime => handle_post_of_decidedBy_ok (.ended hholds hfits) hintime
  same_response := by
    intro chunks chunks' bytes hholds hholds' hfits hintime hintime' h
    rw [handle_post_of_decidedBy_ok (.ended hholds hfits) hintime,
      handle_post_of_decidedBy_ok (.ended hholds' hfits) hintime']
    rcases h with htime | rfl
    · rw [htime]
    · exact congrArg Except.ok ((authorizeModel_wait s _ bytes).trans
        (authorizeModel_wait s _ bytes).symm)

/-- The member's body, split before its last bytes, which come later. -/
def memberAsksSlowly : Body :=
  ⟨[⟨0, .ok "\x7b\"groups\":".toUTF8.toList⟩, ⟨300, .ok "[\"all\"]\x7d".toUTF8.toList⟩], false⟩

/-- A service that has answered the member some times, first at time zero. -/
def memberKnown (asked : Nat) (now : Duration) : DecisionService where
  models := .empty
  tiers := .new ⟨"maas", "tiers"⟩
  cache := ⟨300, 10, [⟨⟨["all"]⟩, none, 300⟩]⟩
  readTimeout := 5
  counts := [⟨(.tiersLookup, .noTier), asked⟩]
  now := now

/-- The member was told that it has no tier, and belongs to one now. -/
def memberPromoted : DecisionService :=
  { memberKnown 1 0 with
    tiers := ⟨⟨"maas", "tiers"⟩, ⟨[⟨⟨"gold", "gold", 1⟩, ["all"]⟩]⟩⟩
    readTimeout := 600 }

/-- An end at the deadline is in time, and bytes that take longer than an entry of the cache lives
get another response than the same bytes at once. -/
theorem arrival_counts :
    (¬ ∀ (s : DecisionService) (endpoint : Endpoint) (body : Body),
      (∀ time outcome, DecidedBy body time outcome → s.readTimeout ≤ time) →
      ∃ s', s.handle (.post endpoint body) =
        (.ok (.error 408 "timed out reading request body"), s')) ∧
    ¬ ∀ (s : DecisionService) (endpoint : Endpoint) (chunks chunks' : List Chunk)
      (bytes : List UInt8), Holds chunks bytes → Holds chunks' bytes → bytes.length ≤ 65536 →
      arrival chunks < s.readTimeout → arrival chunks' < s.readTimeout →
      (s.handle (.post endpoint ⟨chunks, false⟩)).1 =
        (s.handle (.post endpoint ⟨chunks', false⟩)).1 := by
  constructor
  · intro h
    obtain ⟨s', hs'⟩ := h { memberKnown 1 0 with readTimeout := 0 } .tiersLookup memberAsks.body
      fun _ _ _ => Nat.zero_le _
    have hresponse : (DecisionService.handle { memberKnown 1 0 with readTimeout := 0 }
        (.post .tiersLookup memberAsks.body)).1 = .ok (.ofTier none) := by cbv
    rw [hs'] at hresponse
    cases hresponse
  · intro h
    have hsplit : "\x7b\"groups\":".toUTF8.toList ++ ("[\"all\"]\x7d".toUTF8.toList ++ []) =
        "\x7b\"groups\":[\"all\"]\x7d".toUTF8.toList ++ [] := by cbv
    have hholds : Holds memberAsks.body.chunks ("\x7b\"groups\":[\"all\"]\x7d".toUTF8.toList ++ []) :=
      .cons rfl .nil
    have hholdsSlowly : Holds memberAsksSlowly.chunks
        ("\x7b\"groups\":[\"all\"]\x7d".toUTF8.toList ++ []) := by
      rw [← hsplit]
      exact .cons rfl (.cons rfl .nil)
    have hfits : ("\x7b\"groups\":[\"all\"]\x7d".toUTF8.toList ++ []).length ≤ 65536 := by cbv
    have hresponse := h memberPromoted .tiersLookup _ _ _ hholds hholdsSlowly hfits
      (by decide) (by decide)
    have hatOnce : (memberPromoted.handle (.post .tiersLookup memberAsks.body)).1 =
        .ok (.ofTier none) := by cbv
    have hslowly : (memberPromoted.handle (.post .tiersLookup memberAsksSlowly)).1 =
        .ok (.ofTier (some ⟨"gold", "gold", 1⟩)) := by cbv
    have := hatOnce.symm.trans (hresponse.trans hslowly)
    cases this

end DecisionService

end ModelGate

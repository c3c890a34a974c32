import ModelGate.Time.Duration

/-!
# Request bodies

A body arrives in chunks, each after some delay. It is read up to a deadline and up to a size, and
the first event that decides the matter does.
-/

namespace ModelGate

/-- A part of a body: bytes, or the text of an error, after a delay. -/
structure Chunk where
  delay : Duration
  content : Except String (List UInt8)

structure Body where
  chunks : List Chunk
  /-- Whether the body never ends after its chunks. -/
  hangs : Bool

/-- Why a body could not be read. -/
inductive BodyError where
  | tooLarge
  | failed (text : String)
  | timedOut
  deriving DecidableEq, Repr

/-- The outcome of reading a body and the time that it took. -/
structure BodyRead where
  outcome : Except BodyError (List UInt8)
  took : Duration

namespace Body

/-- The size up to which bodies are read. -/
def maxBytes : Nat :=
  65536

/-- Reads the chunks that are left. `past` holds the bytes so far, `elapsed` the time so far. A
chunk that arrives at the deadline is still read. -/
def readFrom (deadline : Duration) (hangs : Bool) :
    List (List UInt8) → Nat → Duration → List Chunk → BodyRead
  | past, _, elapsed, [] =>
    if hangs then ⟨.error .timedOut, deadline⟩ else ⟨.ok past.reverse.flatten, elapsed⟩
  | past, size, elapsed, chunk :: rest =>
    let arrival := elapsed + chunk.delay
    if deadline < arrival then ⟨.error .timedOut, deadline⟩
    else
      match chunk.content with
      | .error text => ⟨.error (.failed text), arrival⟩
      | .ok bytes =>
        if maxBytes < size + bytes.length then ⟨.error .tooLarge, arrival⟩
        else readFrom deadline hangs (bytes :: past) (size + bytes.length) arrival rest

def read (deadline : Duration) (body : Body) : BodyRead :=
  readFrom deadline body.hangs [] 0 0 body.chunks

end Body

end ModelGate

import ModelGate.Http.Status
import ModelGate.Json.Written
import ModelGate.Text.Quoted

/-!
# Errors of the API server

What the API server says when it refuses a request, and why a request may have no answer at all.
-/

namespace ModelGate

open Text (quoted)

structure ApiError where
  status : String
  message : String
  reason : String
  code : Nat
  deriving DecidableEq, Repr

namespace ApiError

def summary (e : ApiError) : String :=
  e.message ++ ": " ++ e.reason

def text (e : ApiError) : String :=
  "ApiError: " ++ e.summary ++ " (ErrorResponse \x7b status: " ++ quoted e.status ++
    ", message: " ++ quoted e.message ++ ", reason: " ++ quoted e.reason ++ ", code: " ++
    toString e.code ++ " \x7d)"

def ofText? (body : String) : Option ApiError := do
  let written ← Json.Written.ofGlyphs? (Glyph.ofText body)
  match ← written.fields? ["status", "message", "reason", "code"] with
  | [status, message, reason, code] =>
    return {
      status := ← (← status).text?
      message := ← message.elim (some "") Json.Written.text?
      reason := ← reason.elim (some "") Json.Written.text?
      code := ← (← code).natBelow? UInt16.size }
  | _ => none

/-- The refusal that an answer with a code and a body stands for. A body that cannot be read is
quoted as the message. -/
def ofAnswer (code : Nat) (body : String) : ApiError :=
  (ofText? body).getD
    ⟨Http.statusText code, quoted body, "Failed to parse error data", code⟩

/-- The refusal of a request for an object that does not exist. -/
def isNotFound (e : ApiError) : Bool :=
  e.reason == "NotFound"

end ApiError

/-- Why a request has no answer that could be used. -/
inductive RequestError where
  /-- The server refused it. -/
  | refused (error : ApiError)
  /-- It was not sent, because it names no object. -/
  | unnamed
  /-- The answer does not have the expected form. -/
  | unreadable
  deriving DecidableEq, Repr

def RequestError.message : RequestError → String
  | .refused error => error.text
  | .unnamed => "Failed to build request: failed to validate request: A non-empty name is required"
  | .unreadable => "Error deserializing response"

end ModelGate

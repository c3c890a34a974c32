import ModelGate.Cluster.Metadata
import ModelGate.Text.Base64

/-!
# Configuration maps

Named texts that configure a program.
-/

namespace ModelGate

open Json (Record)

structure ConfigMap where
  metadata : Metadata
  data : List (String × String)
  deriving DecidableEq, Repr

namespace ConfigMap

/-- A text in base 64. -/
def encoded? : Json → Option String
  | .str text => if Base64.isEncoded text.toList then some text else none
  | _ => none

def ofJson? (j : Json) : Option ConfigMap := do
  let r ← Record.ofObject? j
  let _ ← r.optional "binaryData" (Json.map? encoded?)
  let _ ← r.optional "immutable" Json.bool?
  return {
    metadata := ← r.required "metadata" Metadata.ofJson?
    data := (← r.optional "data" (Json.map? Json.str?)).getD [] }

end ConfigMap

end ModelGate

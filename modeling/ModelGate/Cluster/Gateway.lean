import ModelGate.Cluster.HttpRoute

/-!
# Gateways

The point where requests for models come in, known by the hostnames of its listeners or by its
addresses.
-/

namespace ModelGate

open Json (Record)

/-- A gateway: the hostnames of its listeners and the values of its addresses. -/
structure Gateway where
  metadata : Metadata
  listeners : List (Option String)
  addresses : List String
  deriving DecidableEq, Repr

namespace Gateway

def listenerOfJson? (j : Json) : Option (Option String) := do
  let r ← Record.of? ["allowedRoutes", "hostname", "name", "port", "protocol", "tls"] j
  let hostname ← r.optional "hostname" Json.str?
  let _ ← r.required "name" Json.str?
  let _ ← r.required "port" (Json.signed? 32)
  let _ ← r.required "protocol" Json.str?
  return hostname

/-- Reads what a gateway asks for: the hostnames of its listeners. -/
def specOfJson? (j : Json) : Option (List (Option String)) := do
  let r ← Record.of? ["addresses", "gatewayClassName", "infrastructure", "listeners"] j
  let _ ← r.optional "addresses" (Json.list? Json.any?)
  let _ ← r.required "gatewayClassName" Json.str?
  r.required "listeners" (Json.list? listenerOfJson?)

def addressOfJson? (j : Json) : Option String := do
  let r ← Record.of? ["type", "value"] j
  let _ ← r.optional "type" Json.str?
  r.required "value" Json.str?

def statusOfJson? (j : Json) : Option (List String) := do
  let r ← Record.of? ["addresses", "conditions", "listeners"] j
  let addresses ← r.optional "addresses" (Json.list? addressOfJson?)
  let _ ← r.optional "conditions" (Json.list? Json.any?)
  let _ ← r.optional "listeners" (Json.list? Json.any?)
  return addresses.getD []

def ofJson? (j : Json) : Option Gateway := do
  let r ← Record.of? ["metadata", "spec", "status"] j
  let metadata ← r.required "metadata" Metadata.ofJson?
  let listeners ← r.required "spec" specOfJson?
  let addresses ← r.nullable "status" statusOfJson?
  return { metadata, listeners, addresses := addresses.getD [] }

/-- Adds a hostname at the end unless it is there already. -/
def addHostname (hostnames : List String) (hostname : String) : List String :=
  if hostnames.contains hostname then hostnames else hostnames ++ [hostname]

/-- The concrete hostnames of the listeners, each once. -/
def listenerHostnames (g : Gateway) : List String :=
  ((g.listeners.filterMap id).filter isConcrete).foldl addHostname []

/-- The hostnames of a gateway: those of its listeners, or else its addresses. -/
def hostnames (g : Gateway) : List String :=
  if g.listenerHostnames.isEmpty then g.addresses.filter (· != "") else g.listenerHostnames

end Gateway

end ModelGate

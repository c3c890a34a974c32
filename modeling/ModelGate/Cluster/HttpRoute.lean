import ModelGate.Cluster.InferenceService

/-!
# Routes

The route that leads from a gateway to a model, and who owns it.
-/

namespace ModelGate

open Json (Record)

/-- What a route attaches to. -/
structure ParentRef where
  name : String
  ns : Option String
  kind : Option String
  deriving DecidableEq, Repr

def ParentRef.ofJson? (j : Json) : Option ParentRef := do
  let r ← Record.of? ["group", "kind", "name", "namespace", "port", "sectionName"] j
  let _ ← r.optional "group" Json.str?
  let _ ← r.optional "port" (Json.signed? 32)
  let _ ← r.optional "sectionName" Json.str?
  return {
    name := ← r.required "name" Json.str?
    ns := ← r.optional "namespace" Json.str?
    kind := ← r.optional "kind" Json.str? }

/-- The gateway that a route attaches to. -/
structure GatewayRef where
  name : String
  ns : String
  deriving DecidableEq, Repr

structure HttpRoute where
  metadata : Metadata
  parentRefs : List ParentRef
  hostnames : List String
  deriving DecidableEq, Repr

/-- Whether a hostname is concrete: not empty and without a wildcard in front. -/
def isConcrete (hostname : String) : Bool :=
  hostname != "" && !hostname.startsWith "*"

namespace HttpRoute

def specOfJson? (j : Json) : Option (List ParentRef × List String) := do
  let r ← Record.of? ["hostnames", "parentRefs", "rules"] j
  let hostnames ← r.optional "hostnames" Json.texts?
  let parentRefs ← r.optional "parentRefs" (Json.list? ParentRef.ofJson?)
  let _ ← r.optional "rules" (Json.list? Json.any?)
  return (parentRefs.getD [], hostnames.getD [])

/-- Checks the status of a route. -/
def checkStatus? (j : Json) : Option Unit := do
  let r ← Record.of? ["parents"] j
  let _ ← r.required "parents" (Json.list? Json.any?)
  return ()

def ofJson? (j : Json) : Option HttpRoute := do
  let r ← Record.of? ["metadata", "spec", "status"] j
  let metadata ← r.required "metadata" Metadata.ofJson?
  let (parentRefs, hostnames) ← r.required "spec" specOfJson?
  let _ ← r.nullable "status" checkStatus?
  return { metadata, parentRefs, hostnames }

/-- Whether the route carries an owner reference to an inference service. -/
def isOwnedBy (route : HttpRoute) (service : InferenceService) : Bool :=
  route.metadata.ownerReferences.any fun owner =>
    owner.kind == InferenceService.kind && owner.name == service.metadata.shownName &&
      service.metadata.uid.all (owner.uid == ·)

/-- Whether the route carries a controller reference to a model. -/
def isControlledBy (route : HttpRoute) (model : Model) : Bool :=
  match model.metadata.uid with
  | none => false
  | some uid =>
    route.metadata.ownerReferences.any fun owner =>
      owner.controller == some true && owner.uid == uid && owner.kind == Model.kind

/-- The first gateway that the route attaches to, or a default one. Without a namespace it is
sought in the given one. -/
def gateway (route : HttpRoute) (ns : String) (default : GatewayRef) : GatewayRef :=
  match route.parentRefs.find? fun p => p.kind.all (· == "Gateway") with
  | some p => ⟨p.name, p.ns.getD ns⟩
  | none => default

/-- The concrete hostnames of the route. -/
def concreteHostnames (route : HttpRoute) : List String :=
  route.hostnames.filter isConcrete

/-- The name of the route that is created for a model. -/
def ownedName (modelName : String) : String :=
  "maas-model-" ++ modelName

/-- The name of the route that comes with an inference service. -/
def serviceRouteName (serviceName : String) : String :=
  serviceName ++ "-kserve-route"

end HttpRoute

end ModelGate

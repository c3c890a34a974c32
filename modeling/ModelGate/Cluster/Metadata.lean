import ModelGate.Json.Record
import ModelGate.Time.Calendar

/-!
# Object metadata

What every API object says about itself: its names, its identity, its owners, and whether it is
being deleted.
-/

namespace ModelGate

open Json (Record)

/-- The namespace and the name of an object. -/
structure ObjectId where
  ns : String
  name : String
  deriving DecidableEq, Repr, Inhabited

def ObjectId.display (id : ObjectId) : String :=
  id.ns ++ "/" ++ id.name

/-- A reference from an object to one that owns it. -/
structure OwnerReference where
  apiVersion : String
  kind : String
  name : String
  uid : String
  controller : Option Bool
  blockOwnerDeletion : Option Bool
  deriving DecidableEq, Repr

namespace OwnerReference

def ofJson? (j : Json) : Option OwnerReference := do
  let r ← Record.ofObject? j
  return {
    apiVersion := ← r.required "apiVersion" Json.str?
    kind := ← r.required "kind" Json.str?
    name := ← r.required "name" Json.str?
    uid := ← r.required "uid" Json.str?
    controller := ← r.optional "controller" Json.bool?
    blockOwnerDeletion := ← r.optional "blockOwnerDeletion" Json.bool? }

def toJson (o : OwnerReference) : Json :=
  .obj ([("apiVersion", .str o.apiVersion)] ++
    Json.optional "blockOwnerDeletion" (o.blockOwnerDeletion.map .bool) ++
    Json.optional "controller" (o.controller.map .bool) ++
    [("kind", .str o.kind), ("name", .str o.name), ("uid", .str o.uid)])

end OwnerReference

/-- The metadata of an object, as far as it matters here. -/
structure Metadata where
  name : Option String
  generateName : Option String
  ns : Option String
  uid : Option String
  generation : Option Int
  annotations : List (String × String)
  finalizers : Option (List String)
  ownerReferences : List OwnerReference
  deletionTimestamp : Option String
  deriving DecidableEq, Repr

namespace Metadata

def blank : Metadata :=
  ⟨none, none, none, none, none, [], none, [], none⟩

/-- A point of time. -/
def timestamp? : Json → Option String
  | .str text => if Calendar.isTimestamp text then some text else none
  | _ => none

/-- Checks a record of the changes that one client made to an object. -/
def managedFields? (j : Json) : Option Unit := do
  let r ← Record.ofObject? j
  let _ ← ["apiVersion", "fieldsType", "manager", "operation", "subresource"].mapM
    fun name => r.optional name Json.str?
  let _ ← r.optional "time" timestamp?
  return ()

/-- Reads metadata. Members that do not matter here still have to be of their types. -/
def ofJson? (j : Json) : Option Metadata := do
  let r ← Record.ofObject? j
  let _ ← r.optional "creationTimestamp" timestamp?
  let _ ← r.optional "deletionGracePeriodSeconds" (Json.signed? 64)
  let _ ← r.optional "labels" (Json.map? Json.str?)
  let _ ← r.optional "managedFields" (Json.list? managedFields?)
  let _ ← r.optional "resourceVersion" Json.str?
  let _ ← r.optional "selfLink" Json.str?
  return {
    name := ← r.optional "name" Json.str?
    generateName := ← r.optional "generateName" Json.str?
    ns := ← r.optional "namespace" Json.str?
    uid := ← r.optional "uid" Json.str?
    generation := ← r.optional "generation" (Json.signed? 64)
    annotations := (← r.optional "annotations" (Json.map? Json.str?)).getD []
    finalizers := ← r.optional "finalizers" Json.texts?
    ownerReferences := (← r.optional "ownerReferences" (Json.list? OwnerReference.ofJson?)).getD []
    deletionTimestamp := ← r.optional "deletionTimestamp" timestamp? }

/-- The name of an object, or else the start that its name will be generated from. -/
def shownName (m : Metadata) : String :=
  (m.name.or m.generateName).getD ""

/-- The id of an object; what is missing counts as empty. -/
def id (m : Metadata) : ObjectId :=
  ⟨m.ns.getD "", m.shownName⟩

/-- The finalizers that an object carries. -/
def finalizerList (m : Metadata) : List String :=
  m.finalizers.getD []

def isDeleting (m : Metadata) : Bool :=
  m.deletionTimestamp.isSome

end Metadata

end ModelGate

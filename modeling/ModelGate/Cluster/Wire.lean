import ModelGate.Cluster.ObjectKind

/-!
# Requests on the wire

The HTTP request that asks the API server for something: its method, its path, its parameters and
its body.
-/

namespace ModelGate

/-- The HTTP request of a request to the API server. -/
structure WireRequest where
  method : String
  path : String
  query : Option String
  contentType : Option String
  body : Option Json

namespace WireRequest

/-- The JSON of an HTTP request; what it does not have is left out. -/
def toJson (w : WireRequest) : Json :=
  .obj ([("method", .str w.method), ("path", .str w.path)] ++
    Json.optional "query" (w.query.map .str) ++
    Json.optional "contentType" (w.contentType.map .str) ++ Json.optional "body" w.body)

end WireRequest

namespace FinalizerPatch

/-- The path of the finalizers in the JSON of an object. -/
def listPath : String :=
  "/metadata/finalizers"

/-- One operation of a JSON patch. -/
def operation (op path : String) (value : Option Json) : Json :=
  .obj ([("op", .str op), ("path", .str path)] ++ Json.optional "value" value)

/-- The JSON patch of a change: it first tests what it expects. -/
def toJson (finalizer : String) : FinalizerPatch → Json
  | .addFirst =>
    .arr [operation "test" listPath (some .null),
      operation "add" listPath (some (Json.ofStrings [finalizer]))]
  | .append current =>
    .arr [operation "test" listPath (some (Json.ofStrings current)),
      operation "add" (listPath ++ "/-") (some (.str finalizer))]
  | .remove index =>
    let path := listPath ++ "/" ++ toString index
    .arr [operation "test" path (some (.str finalizer)), operation "remove" path none]

end FinalizerPatch

namespace Request

def method : Request → String
  | .getService _ | .getRoute _ | .getGateway _ => "GET"
  | .deleteRoute .. => "DELETE"
  | .patchFinalizers .. | .applyStatus .. | .createLease _ => "PATCH"

/-- The body of the request that stores a status. -/
def statusBody (status : ModelStatus) : Json :=
  .obj [("apiVersion", .str Model.apiVersion), ("kind", .str Model.kind),
    ("status", status.toJson)]

/-- The body of the request that deletes an object, which must have the given unique id. -/
def deletionBody (uid : Option String) : Json :=
  .obj [("preconditions", .obj (Json.optional "uid" (uid.map .str)))]

/-- The HTTP request of a request. -/
def wire (r : Request) : WireRequest :=
  let base : WireRequest := ⟨r.method, r.kind.path r.target, none, none, none⟩
  match r with
  | .getService _ | .getRoute _ | .getGateway _ => base
  | .deleteRoute _ uid =>
    { base with contentType := some "application/json", body := some (deletionBody uid) }
  | .patchFinalizers _ patch =>
    { base with
      contentType := some "application/json-patch+json"
      body := some (patch.toJson Model.finalizer) }
  | .applyStatus _ status =>
    { base with
      path := base.path ++ "/status"
      query := some ("fieldManager=" ++ Model.fieldManager ++ "&force=true")
      contentType := some "application/apply-patch+yaml"
      body := some (statusBody status) }
  | .createLease lease =>
    { base with
      query := some ("fieldManager=" ++ WriteLease.fieldManager)
      contentType := some "application/apply-patch+yaml"
      body := some lease.toJson }

end Request

end ModelGate

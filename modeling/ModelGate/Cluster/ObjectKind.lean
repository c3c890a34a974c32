import ModelGate.Cluster.Request

/-!
# Kinds of objects

The kinds of objects that the controller deals with, and how the API server names them.
-/

namespace ModelGate

inductive ObjectKind where
  | model
  | service
  | route
  | gateway
  | lease
  deriving DecidableEq, Repr

namespace ObjectKind

def all : List ObjectKind :=
  [model, service, route, gateway, lease]

def text : ObjectKind → String
  | model => Model.kind
  | service => InferenceService.kind
  | route => "HTTPRoute"
  | gateway => "Gateway"
  | lease => "Lease"

def ofText? (name : String) : Option ObjectKind :=
  all.find? (·.text == name)

def group : ObjectKind → String
  | model => "maas.opendatahub.io"
  | service => "serving.kserve.io"
  | route | gateway => "gateway.networking.k8s.io"
  | lease => "coordination.k8s.io"

def version : ObjectKind → String
  | model | service => "v1alpha1"
  | route | gateway | lease => "v1"

def plural : ObjectKind → String
  | model => "maasmodels"
  | service => "llminferenceservices"
  | route => "httproutes"
  | gateway => "gateways"
  | lease => "leases"

/-- The path of the objects of a kind, in one namespace or in all of them. -/
def collectionPath (kind : ObjectKind) (ns : Option String) : String :=
  "/apis/" ++ kind.group ++ "/" ++ kind.version ++
    ns.elim "" (fun ns => "/namespaces/" ++ ns) ++ "/" ++ kind.plural

def path (kind : ObjectKind) (id : ObjectId) : String :=
  kind.collectionPath (some id.ns) ++ "/" ++ id.name

end ObjectKind

namespace Request

/-- The kind of the object that a request is about. -/
def kind : Request → ObjectKind
  | .getService _ => .service
  | .getRoute _ | .deleteRoute .. => .route
  | .getGateway _ => .gateway
  | .patchFinalizers .. | .applyStatus .. => .model
  | .createLease _ => .lease

end Request

end ModelGate

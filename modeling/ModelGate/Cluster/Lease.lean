import ModelGate.Cluster.Metadata

/-!
# The write lease

The object that the controllers compete for. It belongs to the deployment of the controller, and
its resource version makes that it is only ever created, never overwritten.
-/

namespace ModelGate

/-- The lease in a namespace that a deployment owns. -/
structure WriteLease where
  ns : String
  owner : OwnerReference
  deriving DecidableEq, Repr

namespace WriteLease

def name : String :=
  "maas-controller-write"

/-- The name under which the lease is written. -/
def fieldManager : String :=
  "maas-controller"

/-- The label that says what the lease belongs to. -/
def componentLabel : String :=
  "app.kubernetes.io/component"

def toJson (l : WriteLease) : Json :=
  .obj [("apiVersion", .str "coordination.k8s.io/v1"), ("kind", .str "Lease"),
    ("metadata", .obj [("labels", .obj [(componentLabel, .str fieldManager)]),
      ("name", .str name), ("namespace", .str l.ns),
      ("ownerReferences", .arr [l.owner.toJson]), ("resourceVersion", .str "0")])]

end WriteLease

end ModelGate

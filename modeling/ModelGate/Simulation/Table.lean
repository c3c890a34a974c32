import ModelGate.Cluster.Metadata

/-!
# Tables of objects

The objects of one type by their ids. Deleting an object that carries finalizers only marks it;
it goes once the last of them is removed.
-/

namespace ModelGate

/-- The objects of one type by their ids. -/
structure Table (α : Type) where
  entries : List (ObjectId × α)

/-- Objects that carry metadata. -/
class HasMetadata (α : Type) where
  metadata : α → Metadata
  withMetadata : α → Metadata → α

namespace Table

def empty {α : Type} : Table α :=
  ⟨[]⟩

/-- The object of an id. -/
def get? {α : Type} (t : Table α) (id : ObjectId) : Option α :=
  t.entries.lookup id

/-- Takes an object out. -/
def erase {α : Type} (t : Table α) (id : ObjectId) : Table α :=
  ⟨t.entries.filter (·.1 != id)⟩

/-- Puts an object in; it replaces the one of the same id. -/
def insert {α : Type} (t : Table α) (id : ObjectId) (a : α) : Table α :=
  ⟨(id, a) :: (t.erase id).entries⟩

/-- Whether an id does not come behind another one, by namespace and then by name. -/
def isBefore (a b : ObjectId) : Bool :=
  decide (a.ns < b.ns) || (a.ns == b.ns && decide (a.name ≤ b.name))

/-- The objects in the order of their ids. -/
def sorted {α : Type} (t : Table α) : List (ObjectId × α) :=
  t.entries.mergeSort fun a b => isBefore a.1 b.1

/-- Puts an object back, unless it is being deleted and no finalizer is left. -/
def update {α : Type} [HasMetadata α] (t : Table α) (id : ObjectId) (a : α) : Table α :=
  let metadata := HasMetadata.metadata a
  if metadata.isDeleting && metadata.finalizerList.isEmpty then t.erase id else t.insert id a

/-- Deletes an object at a point of time. -/
def delete {α : Type} [HasMetadata α] (t : Table α) (id : ObjectId) (now : String) : Table α :=
  match t.get? id with
  | none => t
  | some a =>
    let metadata := HasMetadata.metadata a
    let marked := { metadata with deletionTimestamp := metadata.deletionTimestamp.or (some now) }
    t.update id (HasMetadata.withMetadata a marked)

end Table

end ModelGate

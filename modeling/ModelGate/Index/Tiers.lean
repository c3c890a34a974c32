import ModelGate.Cluster.ConfigMap
import ModelGate.Index.Models
import ModelGate.Tier.Document

/-!
# The index of tiers

The tier mapping that one configuration map holds. It is replaced as a whole by every document
that can be read, and emptied when the configuration map goes away.
-/

namespace ModelGate

/-- The tier mapping and the configuration map it comes from. -/
structure TierIndex where
  source : ObjectId
  mapping : TierMapping
  deriving DecidableEq, Repr

namespace TierIndex

/-- The member of the configuration map that holds the document. -/
def documentKey : String :=
  "tiers"

def new (source : ObjectId) : TierIndex :=
  ⟨source, .empty⟩

/-- The document of a configuration map; a missing one counts as blank. -/
def document (map : ConfigMap) : String :=
  (map.data.lookup documentKey).getD ""

/-- Takes note of a document: one that cannot be read changes nothing. -/
def load (index : TierIndex) (text : String) : TierIndex :=
  match TierMapping.ofDocument text with
  | .ok mapping => { index with mapping }
  | .error _ => index

/-- Takes note of a configuration map as it is now. -/
def apply (index : TierIndex) (map : ConfigMap) : Except IndexError TierIndex :=
  match map.metadata.name with
  | none => .error .unnamed
  | some name =>
    .ok (if index.source = ⟨map.metadata.ns.getD "", name⟩ then index.load (document map)
      else index)

/-- Takes note that a configuration map is gone. -/
def erase (index : TierIndex) (id : ObjectId) : TierIndex :=
  if index.source = id then { index with mapping := .empty } else index

end TierIndex

end ModelGate

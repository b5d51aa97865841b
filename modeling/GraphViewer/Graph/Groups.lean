import GraphViewer.Graph.Snapshot
/-
The nodes of a snapshot by entity type. Groups stand in the order of their keys: the untyped nodes first,
then the types in the order of their texts. Inside a group the ids keep the order of the snapshot.
-/

namespace GraphViewer

/-- The order of keys, with no key first. -/
def EntityKey.lt : EntityKey → EntityKey → Bool
  | none, some _ => true
  | some a, some b => a < b
  | _, none => false

/-- What a key is called. -/
def EntityKey.label (key : EntityKey) : String :=
  key.getD "untyped"

structure Groups where
  entries : List (EntityKey × List NodeId)
  deriving DecidableEq, Repr

namespace Groups

def empty : Groups := ⟨[]⟩

def isEmpty (g : Groups) : Bool :=
  g.entries.isEmpty

def keys (g : Groups) : List EntityKey :=
  g.entries.map Prod.fst

/-- The entries with an id added at the end of its group, which is made where it is missing. -/
def addTo (key : EntityKey) (id : NodeId) :
    List (EntityKey × List NodeId) → List (EntityKey × List NodeId)
  | [] => [(key, [id])]
  | (k, ids) :: rest =>
    if key.lt k then (key, [id]) :: (k, ids) :: rest
    else if key = k then (k, ids ++ [id]) :: rest
    else (k, ids) :: addTo key id rest

def add (g : Groups) (n : Node) : Groups :=
  ⟨addTo n.entityType? n.id g.entries⟩

def ofSnapshot (s : Snapshot) : Groups :=
  s.nodes.foldl add empty

end Groups

end GraphViewer

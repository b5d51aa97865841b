import GraphViewer.Json.Value
import GraphViewer.Text.Blank
import GraphViewer.Text.Lowercase
import GraphViewer.Text.Infix
/-
A knowledge graph as the viewer shows it: the nodes and edges of one load. Nothing makes node ids unique,
and an edge may name a node that does not exist; such an edge is unresolved. A look-up by id finds the
first node that has it.
-/

namespace GraphViewer

abbrev NodeId := String

/-- The position of an edge in its snapshot. Edges need not have an id. -/
abbrev EdgeIndex := Nat

/-- The group that a node belongs to by its type; `none` is the group of the untyped nodes. -/
abbrev EntityKey := Option String

structure Node where
  id : NodeId
  labels : List String
  properties : Json.Members
  /-- How much room the node gets, by the number of its edges. -/
  weight : Nat
  deriving Repr

/-- The type of a node: the text in its property `entity_type`, if that is a text and not empty. -/
def Node.entityType? (n : Node) : EntityKey :=
  match Json.Members.get? n.properties "entity_type" with
  | some (.string s) => if s = "" then none else some s
  | _ => none

structure Edge where
  id : Option String
  kind : Option String
  source : NodeId
  target : NodeId
  deriving DecidableEq, Repr

/-- The end of the edge opposite to `node`, if `node` is one of its ends. -/
def Edge.otherEnd? (e : Edge) (node : NodeId) : Option NodeId :=
  if e.source = node then some e.target
  else if e.target = node then some e.source
  else none

/-- What a list of relations calls the edge: by its kind, or else by its id. -/
def Edge.label (e : Edge) : String :=
  (e.kind <|> e.id).getD "related"

structure Snapshot where
  nodes : List Node
  edges : List Edge
  truncated : Bool
  deriving Repr

namespace Snapshot

def empty : Snapshot := ⟨[], [], false⟩

def isEmpty (s : Snapshot) : Bool :=
  s.nodes.isEmpty

def node? (s : Snapshot) (id : NodeId) : Option Node :=
  s.nodes.find? (·.id == id)

def contains (s : Snapshot) (id : NodeId) : Bool :=
  (s.node? id).isSome

/-- Both ends of the edge exist in the snapshot. -/
def isResolved (s : Snapshot) (e : Edge) : Bool :=
  s.contains e.source && s.contains e.target

/-- The ids that contain a text, whatever the case of the letters. Blanks around the text do not count. -/
def search (s : Snapshot) (query : String) : List NodeId :=
  let wanted := (Text.lower (Text.trim query)).toList
  (s.nodes.map Node.id).filter fun id => Text.occursIn wanted (Text.lower id).toList

/-- The label and the other end of every resolved edge at a node. -/
def relations (s : Snapshot) (id : NodeId) : List (String × NodeId) :=
  (s.edges.filter s.isResolved).filterMap fun e => (e.otherEnd? id).map (e.label, ·)

theorem contains_iff (s : Snapshot) (id : NodeId) :
    s.contains id = true ↔ ∃ n ∈ s.nodes, n.id = id := by
  simp [contains, node?, List.find?_isSome]

end Snapshot

end GraphViewer

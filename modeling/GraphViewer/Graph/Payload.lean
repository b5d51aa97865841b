import GraphViewer.Graph.Groups
import GraphViewer.Json.Decode
/-
A graph as the service sends it, and the snapshot made of it. Ids may be numbers, lists may be missing or
null, and a node's weight is not sent but counted.
-/

namespace GraphViewer

/-- A node before its weight is known. -/
structure SentNode where
  id : NodeId
  labels : List String
  properties : Json.Members
  deriving Repr

structure Payload where
  nodes : List SentNode
  edges : List Edge
  truncated : Bool
  deriving Repr

/-! ## Decoding -/

namespace SentNode

structure Draft where
  id : Option NodeId := none
  labels : Option (List String) := none
  properties : Option Json.Members := none

open Json Decode in
def record : Record Draft SentNode where
  name := "RawNode"
  fields := [
    { name := "id", required := true, isSet := (·.id.isSome)
      read := fun room t => do
        let v ← name room t
        return ({ · with id := some v }) },
    { name := "labels", isSet := (·.labels.isSome)
      read := fun room t => do
        let v ← listOrNull string room t
        return ({ · with labels := some v }) },
    { name := "properties", isSet := (·.properties.isSome)
      read := fun room t => do
        let v ← members room t
        return ({ · with properties := some v }) }]
  blank := {}
  build d := do
    let id ← required "id" d.id
    return ⟨id, d.labels.getD [], d.properties.getD []⟩

end SentNode

namespace Edge

structure Draft where
  id : Option (Option String) := none
  kind : Option (Option String) := none
  source : Option NodeId := none
  target : Option NodeId := none

open Json Decode in
def record : Record Draft Edge where
  name := "RawEdge"
  fields := [
    { name := "id", isSet := (·.id.isSome)
      read := fun room t => do
        let v ← optional name room t
        return ({ · with id := some v }) },
    { name := "type", isSet := (·.kind.isSome)
      read := fun room t => do
        let v ← optional string room t
        return ({ · with kind := some v }) },
    { name := "source", required := true, isSet := (·.source.isSome)
      read := fun room t => do
        let v ← name room t
        return ({ · with source := some v }) },
    { name := "target", required := true, isSet := (·.target.isSome)
      read := fun room t => do
        let v ← name room t
        return ({ · with target := some v }) }]
  blank := {}
  build d := do
    let source ← required "source" d.source
    let target ← required "target" d.target
    return ⟨d.id.getD none, d.kind.getD none, source, target⟩

end Edge

namespace Payload

structure Draft where
  nodes : Option (List SentNode) := none
  edges : Option (List Edge) := none
  truncated : Option Bool := none

open Json Decode in
def record : Record Draft Payload where
  name := "KnowledgeGraph"
  fields := [
    { name := "nodes", isSet := (·.nodes.isSome)
      read := fun room t => do
        let v ← listOrNull SentNode.record.decode room t
        return ({ · with nodes := some v }) },
    { name := "edges", isSet := (·.edges.isSome)
      read := fun room t => do
        let v ← listOrNull Edge.record.decode room t
        return ({ · with edges := some v }) },
    { name := "is_truncated", isSet := (·.truncated.isSome)
      read := fun room t => do
        let v ← bool room t
        return ({ · with truncated := some v }) }]
  blank := {}
  build d := .ok ⟨d.nodes.getD [], d.edges.getD [], d.truncated.getD false⟩

/-- The graph in a text. -/
def read (text : String) : Except Json.Fault Payload :=
  Json.decode record.decode text

end Payload

/-! ## The snapshot of a payload -/

/-- No node weighs less, so that a node without edges can be seen. -/
def leastWeight : Nat := 7

/-- Edges are counted in 32 bits, and what does not fit into them is lost. -/
def wrapped (count : Nat) : Nat :=
  count % UInt32.size

/-- The larger of the numbers of edges into and out of a node, but not less than `leastWeight`. -/
def nodeWeight (edges : List Edge) (id : NodeId) : Nat :=
  max (max (wrapped (edges.countP (·.target == id))) (wrapped (edges.countP (·.source == id)))) leastWeight

def Snapshot.ofPayload (p : Payload) : Snapshot where
  nodes := p.nodes.map fun n => ⟨n.id, n.labels, n.properties, nodeWeight p.edges n.id⟩
  edges := p.edges
  truncated := p.truncated

/-- How many edges lack an end. -/
def Snapshot.danglingCount (s : Snapshot) : Nat :=
  s.edges.countP fun e => !s.isResolved e

/-- A snapshot together with its groups. -/
structure Loaded where
  snapshot : Snapshot
  groups : Groups
  deriving Repr

def Loaded.ofPayload (p : Payload) : Loaded :=
  let s := Snapshot.ofPayload p
  ⟨s, Groups.ofSnapshot s⟩

end GraphViewer

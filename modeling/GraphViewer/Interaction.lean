import GraphViewer.Graph.Groups
import GraphViewer.Camera
/-
What the user looks at: the focus, what is highlighted because of it, and which entity types are switched
on. A node that was selected is active, and while there is one hovering changes nothing. What is
highlighted is worked out anew in the same step in which the focus changes.
-/

namespace GraphViewer

inductive Focus where
  | none
  | hovered (id : NodeId)
  | active (id : NodeId)
  deriving DecidableEq, Repr

/-- The node in focus, either way. -/
def Focus.node? : Focus → Option NodeId
  | .none => Option.none
  | .hovered id | .active id => some id

/-- What the pointer rests on. -/
inductive Hover where
  | nothing
  | node (id : NodeId)
  | link (edge : EdgeIndex)
  deriving DecidableEq, Repr

/-- The edges that touch a node and whose ends both exist, with the other end of each. -/
def Snapshot.incident (s : Snapshot) (id : NodeId) : List (EdgeIndex × NodeId) :=
  s.edges.zipIdx.filterMap fun (e, i) => if s.isResolved e then (e.otherEnd? id).map (i, ·) else none

structure Interaction where
  /-- The types switched on, in the order of keys. -/
  activeTypes : List EntityKey
  /-- Whether the types of a first graph have been switched on. -/
  defaultsApplied : Bool
  focus : Focus
  /-- The link under the pointer, only while no node is in focus. -/
  hoveredLink : Option EdgeIndex
  highlightedNodes : List NodeId
  highlightedLinks : List EdgeIndex
  deriving DecidableEq, Repr

namespace Interaction

def initial : Interaction := ⟨[], false, .none, none, [], []⟩

def activeNode? (x : Interaction) : Option NodeId :=
  match x.focus with
  | .active id => some id
  | _ => none

def hoveredNode? (x : Interaction) : Option NodeId :=
  match x.focus with
  | .hovered id => some id
  | _ => none

def isTypeActive (x : Interaction) (key : EntityKey) : Bool :=
  x.activeTypes.contains key

/-- The same state with what its focus highlights in a snapshot. -/
def highlight (x : Interaction) (s : Snapshot) : Interaction :=
  match x.focus.node? with
  | none => { x with highlightedNodes := [], highlightedLinks := x.hoveredLink.toList }
  | some id =>
    let incident := s.incident id
    { x with
      highlightedNodes := (id :: incident.map Prod.snd).eraseDups
      highlightedLinks := incident.map Prod.fst }

/-! ## Selection -/

/-- Makes a node active, or none, and says where the camera goes. -/
def select (x : Interaction) (s : Snapshot) : Option NodeId → Interaction × Aim
  | some id => ({ x with focus := .active id, hoveredLink := none }.highlight s, .node id)
  | none => ({ x with focus := .none, hoveredLink := none }.highlight s, .origin)

/-- A click makes a node active, and a click on the active node makes none active. -/
def click (x : Interaction) (s : Snapshot) (id : NodeId) : Interaction × Aim :=
  x.select s (if x.activeNode? = some id then none else some id)

/-! ## Hovering -/

/-- Follows the pointer, except while a node is active. A link counts only if both its ends exist. -/
def hover (x : Interaction) (s : Snapshot) (target : Hover) : Interaction :=
  match x.focus with
  | .active _ => x
  | _ =>
    let (focus, link) : Focus × Option EdgeIndex := match target with
      | .nothing => (.none, none)
      | .node id => (.hovered id, none)
      | .link i => (.none, if s.edges[i]?.any s.isResolved then some i else none)
    if focus = x.focus ∧ link = x.hoveredLink then x
    else { x with focus := focus, hoveredLink := link }.highlight s

/-- What hovering a node, or leaving it, reports. -/
def Hover.ofNode? (id : Option NodeId) : Hover :=
  id.elim .nothing .node

/-- What hovering a link, or leaving it, reports. -/
def Hover.ofLink? (edge : Option EdgeIndex) : Hover :=
  edge.elim .nothing .link

/-! ## Entity types -/

/-- A list in the order of keys, with one more key. -/
def insertKey (key : EntityKey) : List EntityKey → List EntityKey
  | [] => [key]
  | k :: rest => if key.lt k then key :: k :: rest else k :: insertKey key rest

/-- Switches a type on or off. -/
def toggleType (x : Interaction) (key : EntityKey) : Interaction :=
  { x with
    activeTypes :=
      if x.activeTypes.contains key then x.activeTypes.filter (· != key)
      else insertKey key x.activeTypes }

/-! ## New snapshots -/

/-- The focus without a node that a snapshot lacks, and the camera's aim if that node was active. -/
def keepFocus (s : Snapshot) : Focus → Focus × Option Aim
  | .active id => if s.contains id then (.active id, none) else (.none, some .origin)
  | .hovered id => if s.contains id then (.hovered id, none) else (.none, none)
  | .none => (.none, none)

/-- Goes over to a new snapshot. The first groups that are not empty are all switched on. The link under
the pointer is forgotten, as its index belongs to the old snapshot. -/
def adopt (x : Interaction) (s : Snapshot) (g : Groups) : Interaction × Option Aim :=
  let first := !x.defaultsApplied && !g.isEmpty
  let (focus, aim) := keepFocus s x.focus
  ({ x with
    activeTypes := if first then g.keys else x.activeTypes
    defaultsApplied := x.defaultsApplied || first
    focus := focus
    hoveredLink := none }.highlight s, aim)

end Interaction

end GraphViewer

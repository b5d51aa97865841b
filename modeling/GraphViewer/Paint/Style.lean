import GraphViewer.Paint.Colour
import GraphViewer.Interaction
import GraphViewer.Layout.Pointer
/-
What is painted, how large and in which colour, given the snapshot and the interaction. The same rules
decide what the pointer can hit.
-/

namespace GraphViewer

open Scalar (nat zero one)

def Theme.background : Theme → String
  | .light => "#fafafa"
  | .dark => "#1a1a2e"

def nodeStroke : String := "#fff"

def labelColour : String := "#fff"

/-- The colour of a link. -/
def Theme.linkColour (theme : Theme) (highlighted : Bool) : String :=
  match theme, highlighted with
  | .dark, true => "#585858"
  | .dark, false => "#383838"
  | .light, true => "#bbb"
  | .light, false => "#ddd"

/-- How many particles flow along a highlighted link. -/
def flowParticles : Nat := 2

/-- Nodes are not painted larger than this, apart from hovering. -/
def radiusLimit : Nat := 24

namespace Interaction

/-- Untyped nodes are always shown, and the others if their type is switched on. -/
def showsNode (x : Interaction) (n : Node) : Bool :=
  match n.entityType? with
  | none => true
  | some t => x.isTypeActive (some t)

/-- A link is shown if both its ends exist and their types, or the group of untyped nodes, are switched
on. -/
def showsLink (x : Interaction) (s : Snapshot) (e : Edge) : Bool :=
  match s.node? e.source, s.node? e.target with
  | some a, some b => x.isTypeActive a.entityType? && x.isTypeActive b.entityType?
  | _, _ => false

def highlightsLink (x : Interaction) (i : EdgeIndex) : Bool :=
  x.highlightedLinks.contains i

/-- With something in focus, the nodes that are not highlighted are muted. -/
def mutes (x : Interaction) (n : Node) : Bool :=
  !x.highlightedNodes.isEmpty && !x.highlightedNodes.contains n.id

/-- The colour that a node is filled with. -/
def nodeFill (x : Interaction) (n : Node) (theme : Theme) : String :=
  let colour := n.entityType?.colour
  if x.mutes n then (mutedColour? colour theme).getD colour else colour

end Interaction

variable {W : Type} [Scalar W]

def nodeStrokeWidth : W := nat 1 / nat 2

def linkWidth (highlighted : Bool) : W :=
  if highlighted then nat 2 else nat 1

/-- The width of what flows along a link, which is nothing on links that are not highlighted. -/
def flowWidth (highlighted : Bool) : W :=
  if highlighted then nat 3 else zero

def Node.radius (n : Node) : W :=
  nat (min n.weight radiusLimit)

/-- The radius of a node as painted: one more under the pointer. -/
def Interaction.paintedRadius (x : Interaction) (n : Node) : W :=
  n.radius + if x.hoveredNode? = some n.id then one else zero

/-- What the pointer can hit: the nodes and links that are shown, at their painted size. -/
def Interaction.targets (x : Interaction) (s : Snapshot) : Layout.Targets W where
  radius i :=
    match s.nodes[i]? with
    | some n => if x.showsNode n then some (x.paintedRadius n) else none
    | none => none
  link i := s.edges[i]?.any (x.showsLink s)

end GraphViewer

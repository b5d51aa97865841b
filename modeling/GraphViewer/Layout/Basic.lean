import GraphViewer.Layout.Physics
import GraphViewer.Camera
import GraphViewer.Interaction
import GraphViewer.Geometry.Segment
/-
The layout of a snapshot on a canvas: where its nodes are, what the camera shows of them, and what the
pointer is doing. The node at index `i` of the layout is the node at index `i` of the snapshot. Positions
are narrow numbers, and all else is worked out in wide ones.
-/

namespace GraphViewer

open Scalar (nat zero)
open Narrowing (narrow widen)

/-- An edge whose ends both have a place. -/
structure LayoutEdge where
  source : Nat
  target : Nat
  edge : EdgeIndex
  deriving DecidableEq, Repr

/-- A press on a node, and whether the pointer has moved far enough to make it a drag. -/
structure Drag (W N : Type) where
  node : Nat
  moved : Bool
  startX : W
  startY : W
  nodeX : N
  nodeY : N
  deriving DecidableEq, Repr

/-- A press beside all nodes, which moves the centre of the view. -/
structure Pan (W : Type) where
  startX : W
  startY : W
  centreX : W
  centreY : W
  deriving DecidableEq, Repr

structure Layout (W N : Type) where
  physics : Physics N
  edges : List LayoutEdge
  camera : Camera W
  drag : Option (Drag W N)
  pan : Option (Pan W)
  width : W
  height : W
  /-- The time that has passed for what flows along the links. -/
  flow : W
  /-- What the pointer rested on when it was last looked at. -/
  pointer : Hover
  deriving Repr

/-- How a point of the graph comes to its place on the canvas: multiplied, then moved. -/
structure Transform (W : Type) where
  x : W
  y : W
  scale : W
  deriving DecidableEq, Repr

namespace Layout

variable {W N : Type} [Scalar W] [Scalar N] [Narrowing W N]

def create (width height : W) : Layout W N :=
  ⟨Physics.empty, [], Camera.initial, none, none, width, height, zero, .nothing⟩

def particles (l : Layout W N) : List (Particle N) :=
  l.physics.particles.toList

/-- The place of an id: its last node counts. -/
def indexIn (particles : List (Particle N)) (id : NodeId) : Option Nat :=
  (particles.zipIdx.reverse.find? fun p => p.1.id == id).map Prod.snd

/-- The last particle with an id. -/
def particleIn? (particles : List (Particle N)) (id : NodeId) : Option (Particle N) :=
  particles.reverse.find? fun p => p.id == id

def centreOf (p : Particle N) : Point W :=
  ⟨widen p.x, widen p.y⟩

/-- The place of the node at an index. -/
def position? (l : Layout W N) (i : Nat) : Option (Point W) :=
  l.physics.particles[i]?.map centreOf

/-- The place of the last node with an id. -/
def positionOf? (l : Layout W N) (id : NodeId) : Option (Point W) :=
  (particleIn? l.particles id).map centreOf

/-! ## Loading -/

/-- Nodes start on a circle of this radius. -/
def seedRadius : W := nat 100

/-- Where the node at an index out of `count` starts. -/
def seed (id : NodeId) (index count : Nat) : Particle N :=
  let angle : W := nat index * nat 2 * Scalar.pi / nat (max count 1)
  Particle.atRest id (narrow (seedRadius * Scalar.cos angle)) (narrow (seedRadius * Scalar.sin angle)) false

/-- A node of a new snapshot: where it was and pinned as it was, or at its start. -/
def settle (before : List (Particle N)) (count index : Nat) (id : NodeId) : Particle N :=
  match particleIn? before id with
  | some p => Particle.atRest id p.x p.y p.pinned
  | none => seed (W := W) id index count

/-- The edges that have both ends among the particles. -/
def edgesIn (particles : List (Particle N)) (s : Snapshot) : List LayoutEdge :=
  s.edges.zipIdx.filterMap fun (e, i) =>
    match indexIn particles e.source, indexIn particles e.target with
    | some source, some target => some ⟨source, target, i⟩
    | _, _ => none

/-- Lays a snapshot out anew. Nodes that were there before keep their place and their pin, and any drag
and hover is over. -/
def load (l : Layout W N) (s : Snapshot) : Layout W N :=
  let count := s.nodes.length
  let particles := s.nodes.zipIdx.map fun (n, i) => settle (W := W) l.particles count i n.id
  let edges := edgesIn particles s
  { l with
    physics :=
      ⟨particles.toArray, edges.foldl (fun links e => Physics.addLink links e.source e.target) []⟩
    edges := edges
    drag := none
    pointer := .nothing }

/-! ## The view -/

def transform (l : Layout W N) : Transform W :=
  let k := l.camera.zoom
  ⟨l.width / nat 2 - l.camera.x * k, l.height / nat 2 - l.camera.y * k, k⟩

/-- The point of the graph at a point of the canvas. -/
def toGraph (l : Layout W N) (p : Point W) : Point W :=
  let t := l.transform
  ⟨(p.x - t.x) / t.scale, (p.y - t.y) / t.scale⟩

def resize (l : Layout W N) (width height : W) : Layout W N :=
  { l with width := width, height := height }

/-- Sends the camera where an order says. A node without a place changes the zoom only. -/
def obey (l : Layout W N) (o : CameraOrder W) : Layout W N :=
  let camera := match o.aim with
    | .node id =>
      match l.positionOf? id with
      | some p => l.camera.centreAt p.x p.y o.centreMs
      | none => l.camera
    | .origin => l.camera.centreAt zero zero o.centreMs
  { l with camera := camera.zoomTo o.zoom o.zoomMs }

/-- Time passes for the forces, for what flows along the links and for the camera. Nothing comes of it if
an edge joins a node to itself. -/
def tick? (l : Layout W N) (dt : N) : Option (Layout W N) := do
  let physics ← l.physics.update? dt
  let seconds : W := widen dt
  return { l with
    physics := physics
    flow := l.flow + seconds
    camera := l.camera.tick (seconds * nat 1000) }

/-! ## Hits -/

/-- The topmost node at a point of the canvas. `radius` gives the radius of the node at an index, or
nothing for a node that cannot be hit. -/
def nodeAt? (l : Layout W N) (p : Point W) (radius : Nat → Option W) : Option Nat :=
  let g := l.toGraph p
  l.particles.zipIdx.foldl (fun found (q, i) =>
    match radius i with
    | none => found
    | some r => if ((centreOf q : Point W).minus g).length < r then some i else found) none

/-- A link can be hit from this far off, on the canvas. -/
def linkReach : W := nat 4

/-- The nearest of some candidates, the first of those equally near. -/
def nearest? (candidates : List (EdgeIndex × W)) : Option (EdgeIndex × W) :=
  candidates.foldl (fun best c =>
    match best with
    | none => some c
    | some b => if c.2 < b.2 then some c else some b) none

/-- The distance of a point of the graph from a link, if both its ends have a place. -/
def linkDistance? (l : Layout W N) (g : Point W) (e : LayoutEdge) : Option W := do
  let a ← l.position? e.source
  let b ← l.position? e.target
  return segmentDistance g a b

/-- The edge of the nearest link within reach of a point of the canvas, of those that can be hit. -/
def linkAt? (l : Layout W N) (p : Point W) (visible : EdgeIndex → Bool) : Option EdgeIndex :=
  let g := l.toGraph p
  let reach := linkReach / l.camera.zoom
  let candidates := (l.edges.filter fun e => visible e.edge).filterMap fun e =>
    (l.linkDistance? g e).map (e.edge, ·)
  (nearest? (candidates.filter fun c => c.2 ≤ reach)).map Prod.fst

end Layout

end GraphViewer

import GraphViewer.Geometry.Scalar
import GraphViewer.Graph.Snapshot
/-
The camera: the point of the graph at the middle of the canvas and the zoom. A move of the centre or of
the zoom takes its time, and slows down towards its end; both go on independently of each other.
-/

namespace GraphViewer

open Scalar (nat zero one clamp)

/-- What the camera is told to look at. -/
inductive Aim where
  | node (id : NodeId)
  | origin
  deriving DecidableEq, Repr

/-- An order to the camera: where to go, how near, and how long to take for either. -/
structure CameraOrder (α : Type) where
  aim : Aim
  zoom : α
  centreMs : α
  zoomMs : α
  deriving DecidableEq, Repr

/-- A number on its way from `start` to `target`. -/
structure Tween (α : Type) where
  start : α
  target : α
  elapsed : α
  duration : α
  deriving DecidableEq, Repr

structure Camera (α : Type) where
  x : α
  y : α
  zoom : α
  centring : Option (Tween α × Tween α)
  zooming : Option (Tween α)
  deriving DecidableEq, Repr

variable {α : Type} [Scalar α]

/-- The order that an aim stands for: nodes are looked at from near, the whole graph from farther off. -/
def CameraOrder.ofAim (aim : Aim) : CameraOrder α where
  aim := aim
  zoom := match aim with
    | .node _ => nat 3
    | .origin => nat 3 / nat 2
  centreMs := nat 400
  zoomMs := nat 600

/-- The part of a way covered after the part `t` of its time. -/
def easeOut (t : α) : α :=
  one - (one - t) * (one - t) * (one - t)

namespace Tween

def isDone (t : Tween α) : Bool :=
  t.duration ≤ zero || t.duration ≤ t.elapsed

def after (t : Tween α) (ms : α) : Tween α :=
  { t with elapsed := t.elapsed + ms }

def value (t : Tween α) : α :=
  if t.isDone then t.target
  else t.start + (t.target - t.start) * easeOut (t.elapsed / t.duration)

end Tween

def zoomLeast : α := nat 1 / nat 10

def zoomMost : α := nat 10

namespace Camera

def initial : Camera α := ⟨zero, zero, one, none, none⟩

/-- The centre after some time. -/
def tickCentre (c : Camera α) (ms : α) : Camera α :=
  match c.centring with
  | none => c
  | some (tx, ty) =>
    let tx := tx.after ms
    let ty := ty.after ms
    { c with x := tx.value, y := ty.value, centring := if tx.isDone then none else some (tx, ty) }

/-- The zoom after some time. -/
def tickZoom (c : Camera α) (ms : α) : Camera α :=
  match c.zooming with
  | none => c
  | some t =>
    let t := t.after ms
    { c with zoom := t.value, zooming := if t.isDone then none else some t }

/-- The camera after some time. -/
def tick (c : Camera α) (ms : α) : Camera α :=
  (c.tickCentre ms).tickZoom ms

/-- Without time to take, a move is over at once. -/
def start (c : Camera α) (duration : α) : Camera α :=
  if duration ≤ zero then c.tick zero else c

/-- Moves the centre to a point. -/
def centreAt (c : Camera α) (x y duration : α) : Camera α :=
  { c with centring := some (⟨c.x, x, zero, duration⟩, ⟨c.y, y, zero, duration⟩) }.start duration

/-- Moves the zoom to a factor, within its limits. -/
def zoomTo (c : Camera α) (factor duration : α) : Camera α :=
  { c with zooming := some ⟨c.zoom, clamp zoomLeast zoomMost factor, zero, duration⟩ }.start duration

/-- Stays where it is. -/
def halt (c : Camera α) : Camera α :=
  { c with centring := none, zooming := none }

end Camera

end GraphViewer

import GraphViewer.Layout.Basic
/-
What the pointer does to a layout. A press on a node drags it, and is a click if the pointer stays where
it is; a press elsewhere moves the view. With neither in progress the pointer rests on a node or a link,
and a change of that is reported once.
-/

namespace GraphViewer

open Scalar (nat zero clamp)
open Narrowing (narrow widen)

namespace Layout

variable {W N : Type} [Scalar W] [Scalar N] [Narrowing W N]

/-- What the pointer can hit: the radius of each node, and whether a link counts. -/
structure Targets (W : Type) where
  radius : Nat → Option W
  link : EdgeIndex → Bool

/-- A press and release within this distance is a click. -/
def clickSlop : W := nat 3

def pointerDown (l : Layout W N) (p : Point W) (t : Targets W) : Layout W N :=
  match l.nodeAt? p t.radius with
  | some i =>
    let place := (l.physics.particles[i]?.map fun q => (q.x, q.y)).getD (zero, zero)
    { l with drag := some ⟨i, false, p.x, p.y, place.1, place.2⟩ }
  | none =>
    { l with
      camera := l.camera.halt
      pan := some ⟨p.x, p.y, l.camera.x, l.camera.y⟩ }

/-- What is under a point of the canvas, nodes before links. -/
def under (l : Layout W N) (p : Point W) (t : Targets W) : Hover :=
  match l.nodeAt? p t.radius with
  | some i => (l.physics.particles[i]?.map Particle.id).elim .nothing .node
  | none => (l.linkAt? p t.link).elim .nothing .link

/-- Puts the dragged node where the pointer takes it, once it has moved far enough, and pins it there. -/
def dragTo (l : Layout W N) (d : Drag W N) (p : Point W) : Layout W N :=
  let travel : Point W := p.minus ⟨d.startX, d.startY⟩
  if !d.moved && travel.length < clickSlop then l
  else
    let k := l.camera.zoom
    let x := d.nodeX + narrow (travel.x / k)
    let y := d.nodeY + narrow (travel.y / k)
    { l with
      drag := some { d with moved := true }
      physics := { l.physics with
        particles := l.physics.particles.modify d.node fun q =>
          { q with x := x, y := y, pinned := true } } }

/-- Moves the view with the pointer. -/
def panTo (l : Layout W N) (q : Pan W) (p : Point W) : Layout W N :=
  let k := l.camera.zoom
  { l with
    camera := { l.camera with
      x := q.centreX - (p.x - q.startX) / k
      y := q.centreY - (p.y - q.startY) / k } }

/-- The pointer goes to a point. What it rests on is told if that has changed. -/
def pointerMove (l : Layout W N) (p : Point W) (t : Targets W) : Layout W N × Option Hover :=
  match l.drag, l.pan with
  | some d, _ => (l.dragTo d p, none)
  | none, some q => (l.panTo q p, none)
  | none, none =>
    let h := l.under p t
    if h = l.pointer then (l, none) else ({ l with pointer := h }, some h)

/-- The end of a press, with the node clicked on if it was a click. -/
def pointerUp (l : Layout W N) : Layout W N × Option NodeId :=
  let clicked := match l.drag with
    | some d => if d.moved then none else l.physics.particles[d.node]?.map Particle.id
    | none => none
  ({ l with drag := none, pan := none }, clicked)

/-- The pointer is off the canvas: any press and hover is over. Tells whether there was a hover. -/
def pointerLeave (l : Layout W N) : Layout W N × Bool :=
  ({ l with drag := none, pan := none, pointer := .nothing }, l.pointer != .nothing)

/-- A step of the wheel zooms by a tenth, away for a positive turn and nearer otherwise. What is under the
pointer stays there. -/
def wheel (l : Layout W N) (p : Point W) (turn : W) : Layout W N :=
  let g := l.toGraph p
  let factor : W := if zero < turn then nat 9 / nat 10 else nat 11 / nat 10
  let k := clamp zoomLeast zoomMost (l.camera.zoom * factor)
  { l with
    camera := { l.camera.halt with
      zoom := k
      x := g.x - (p.x - l.width / nat 2) / k
      y := g.y - (p.y - l.height / nat 2) / k } }

end Layout

end GraphViewer

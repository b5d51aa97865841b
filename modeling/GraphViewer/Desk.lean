import GraphViewer.Frame
import GraphViewer.Service.Exchange
/-
A layout and an interaction over one snapshot, worked by hand: graphs are put in directly, and the last
order to the camera is kept until it is given. What the pointer reports can be passed on to the
interaction, as the page does.
-/

namespace GraphViewer

structure Desk (W N : Type) where
  layout : Layout W N
  interaction : Interaction
  snapshot : Snapshot
  theme : Theme
  /-- The last order to the camera. -/
  order : Option (CameraOrder W)

namespace Desk

variable {W N : Type} [Scalar W] [Scalar N] [Narrowing W N]

def create (width height : W) (theme : Theme) : Desk W N :=
  ⟨Layout.create width height, Interaction.initial, Snapshot.empty, theme, none⟩

def scene (d : Desk W N) : Scene :=
  ⟨d.snapshot, d.interaction, d.theme⟩

def targets (d : Desk W N) : Layout.Targets W :=
  d.interaction.targets d.snapshot

/-- Works on the layout only. -/
def withLayout (d : Desk W N) (f : Layout W N → Layout W N) : Desk W N :=
  { d with layout := f d.layout }

/-- Takes a graph in; the camera's order is told if there is one. -/
def load (d : Desk W N) (p : Payload) : Desk W N × Option (CameraOrder W) × List Notice :=
  let l := Loaded.ofPayload p
  let (interaction, aim) := d.interaction.adopt l.snapshot l.groups
  let order := aim.map CameraOrder.ofAim
  ({ d with
    layout := d.layout.load l.snapshot
    interaction := interaction
    snapshot := l.snapshot
    order := order <|> d.order }, order, l.notices)

/-- Keeps what a selection leads to. -/
def selected (d : Desk W N) (result : Interaction × Aim) : Desk W N × CameraOrder W × List Notice :=
  let order := CameraOrder.ofAim result.2
  ({ d with interaction := result.1, order := some order }, order, [.selected result.1.activeNode?])

def select (d : Desk W N) (id : Option NodeId) : Desk W N × CameraOrder W × List Notice :=
  d.selected (d.interaction.select d.snapshot id)

def click (d : Desk W N) (id : NodeId) : Desk W N × CameraOrder W × List Notice :=
  d.selected (d.interaction.click d.snapshot id)

def hover (d : Desk W N) (target : Hover) : Desk W N :=
  { d with interaction := d.interaction.hover d.snapshot target }

/-- Gives the kept order to the camera, and tells which it was. -/
def apply (d : Desk W N) : Desk W N × Option (CameraOrder W) :=
  match d.order with
  | some o => (d.withLayout (·.obey o), some o)
  | none => (d, none)

/-! ## The pointer, with its reports passed on or not -/

def move (d : Desk W N) (p : Point W) (passOn : Bool) : Desk W N × Option Hover :=
  let (layout, report) := d.layout.pointerMove p d.targets
  let moved := { d with layout := layout }
  match report with
  | some target => (if passOn then moved.hover target else moved, report)
  | none => (moved, none)

def up (d : Desk W N) (passOn : Bool) : Desk W N × Option NodeId × List Notice :=
  let (layout, clicked) := d.layout.pointerUp
  let released := { d with layout := layout }
  match clicked, passOn with
  | some id, true =>
    let (clickedOn, order, notices) := released.click id
    (clickedOn.withLayout (·.obey order), clicked, notices)
  | _, _ => (released, clicked, [])

def leave (d : Desk W N) (passOn : Bool) : Desk W N × Bool :=
  let (layout, hovering) := d.layout.pointerLeave
  let left := { d with layout := layout }
  (if hovering && passOn then left.hover .nothing else left, hovering)

/-! ## By hand -/

/-- Puts every node with an id at a place, and pins it or not if that is said. -/
def place (d : Desk W N) (id : NodeId) (x y : N) (pinned : Option Bool) : Desk W N :=
  d.withLayout fun l => { l with
    physics := { l.physics with
      particles := l.physics.particles.map fun p =>
        if p.id = id then { p with x := x, y := y, pinned := pinned.getD p.pinned } else p } }

/-- Lets a step of time pass several times. -/
def tick? (d : Desk W N) (dt : N) : Nat → Option (Desk W N)
  | 0 => some d
  | n + 1 => do
    let layout ← d.layout.tick? dt
    tick? { d with layout := layout } dt n

def frame (d : Desk W N) (measure : Measure W) : List (Stroke W) :=
  d.layout.paint measure d.scene

end Desk

end GraphViewer

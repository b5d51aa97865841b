import GraphViewer.View.State
/-
What the user does to a view: with the buttons and lists of the page, and with the pointer on the canvas.
Selecting and hovering need a snapshot; while none is shown they do nothing.
-/

namespace GraphViewer

/-- What the controls of the page say. -/
inductive Message where
  | toggleSearch
  | searchFor (query : String)
  | pick (id : NodeId)
  | openMerges
  | refresh
  | toggleFullscreen
  | toggleType (key : EntityKey)
  | activate (id : NodeId)
  | clearFocus
  | closeMerges
  | answer (suggestion : String) (action : MergeAction)
  deriving DecidableEq, Repr

/-- What the pointer does on the canvas, at a point of the screen. -/
inductive PointerEvent (W : Type) where
  | down (screen : Point W)
  | move (screen : Point W)
  | up
  | leave
  | wheel (screen : Point W) (turn : W)
  deriving DecidableEq, Repr

namespace View

variable {W N : Type} [Scalar W] [Scalar N] [Narrowing W N]

/-! ## Selecting and hovering -/

/-- Keeps what a selection leads to. -/
def selected (v : View W N) (result : Interaction × Aim) : Turn W N :=
  ⟨{ v with interaction := result.1 }.aimAt result.2, [.selected result.1.activeNode?], []⟩

/-- A click on a node. -/
def clickNode (v : View W N) (id : NodeId) : Turn W N :=
  match v.snapshot? with
  | none => v.quiet
  | some s => v.selected (v.interaction.click s id)

/-- Selects a node that a panel names, which the snapshot may lack. -/
def activate (v : View W N) (id : NodeId) : Turn W N :=
  match v.snapshot? with
  | none => v.quiet
  | some s =>
    if s.contains id then v.selected (v.interaction.select s (some id)) else ⟨v, [.unknownNode id], []⟩

def clearFocus (v : View W N) : Turn W N :=
  match v.snapshot? with
  | none => v.quiet
  | some s => v.selected (v.interaction.select s none)

def hover (v : View W N) (target : Hover) : View W N :=
  match v.snapshot? with
  | none => v
  | some s => { v with interaction := v.interaction.hover s target }

/-! ## Controls -/

/-- Passes an answer to a suggestion on. -/
def answer (v : View W N) (suggestion : String) (action : MergeAction) : Turn W N :=
  match v.collection? with
  | none => v.quiet
  | some collection =>
    ⟨{ v with merge := { v.merge with busy := true, error := none } }, [],
      [.action collection suggestion action]⟩

/-- A control of the page was used. -/
def handle (v : View W N) : Message → Turn W N
  | .toggleSearch => { v with searchOpen := !v.searchOpen }.quiet
  | .searchFor query => { v with search := query }.quiet
  | .pick id =>
    let t := v.clickNode id
    { t with view := { t.view with searchOpen := false } }
  | .openMerges => { v with merge := { v.merge with isOpen := true } }.quiet
  | .refresh =>
    let (read, calls) := v.refresh
    ⟨read, [], calls⟩
  | .toggleFullscreen => { v with fullscreen := !v.fullscreen, canvas := v.canvas.fit }.quiet
  | .toggleType key => { v with interaction := v.interaction.toggleType key }.quiet
  | .activate id => v.activate id
  | .clearFocus => v.clearFocus
  | .closeMerges =>
    let t := v.clearFocus
    { t with view := { t.view with merge := { t.view.merge with isOpen := false } } }
  | .answer suggestion action => v.answer suggestion action

/-! ## The canvas -/

/-- What the pointer can hit: nothing while no snapshot is shown. -/
def targets (v : View W N) : Layout.Targets W :=
  v.interaction.targets (v.snapshot?.getD .empty)

/-- The view with another layout on its canvas. -/
def withLayout (v : View W N) (l : Layout W N) : View W N :=
  { v with canvas := { v.canvas with layout := some l } }

/-- The pointer does something on a layout. What it rests on and what it clicks on is passed on. -/
def pointOn (v : View W N) (l : Layout W N) : PointerEvent W → Turn W N
  | .down screen => (v.withLayout (l.pointerDown (v.canvas.pointAt screen) v.targets)).quiet
  | .move screen =>
    let (moved, report) := l.pointerMove (v.canvas.pointAt screen) v.targets
    (report.elim (v.withLayout moved) (v.withLayout moved).hover).quiet
  | .up =>
    let (released, clicked) := l.pointerUp
    clicked.elim (v.withLayout released).quiet (v.withLayout released).clickNode
  | .leave =>
    let (left, hovering) := l.pointerLeave
    (if hovering then (v.withLayout left).hover .nothing else v.withLayout left).quiet
  | .wheel screen turn => (v.withLayout (l.wheel (v.canvas.pointAt screen) turn)).quiet

def point (v : View W N) (e : PointerEvent W) : Turn W N :=
  match v.canvas.layout with
  | none => v.quiet
  | some l => v.pointOn l e

/-- The room of the canvas changes. -/
def resize (v : View W N) (room : Option (Int × Int)) : View W N :=
  { v with canvas := v.canvas.moveTo room }

/-- The strokes of the frame that shows a layout. -/
def strokes (v : View W N) (measure : Measure W) (l : Layout W N) : List (Stroke W) :=
  match v.snapshot? with
  | some s => l.paint measure ⟨s, v.interaction, v.theme⟩
  | none => l.clear v.theme

/-- The next frame, with its strokes. Without a layout there is nothing to paint; and there is no next frame
if the layout breaks down. -/
def frame? (v : View W N) (measure : Measure W) : Option (View W N × List (Stroke W)) :=
  match v.canvas.layout with
  | none => some (v, [])
  | some l => (l.tick? Canvas.frameTime).map fun next => (v.withLayout next, v.strokes measure next)

end View

end GraphViewer

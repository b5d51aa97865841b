import GraphViewer.Frame
/-
The canvas on a page. It fills the room that the page gives it, and has a layout only if it can be drawn on;
without one the pointer finds nothing and no frame is painted.
-/

namespace GraphViewer

open Scalar (nat)

/-- Where the canvas stands: the size of what is around it, if there is anything, its corner on the screen,
and whether it can be drawn on. -/
structure Site (W : Type) where
  room : Option (Int × Int)
  corner : Point W
  drawable : Bool
  deriving Repr

/-- The size of a canvas without any room. -/
def standardSize : Nat × Nat :=
  (800, 600)

/-- The size of a canvas that fills a room. -/
def fittingSize : Option (Int × Int) → Nat × Nat
  | some (w, h) => if 0 < w ∧ 0 < h then (w.toNat, h.toNat) else standardSize
  | none => standardSize

structure Canvas (W N : Type) where
  site : Site W
  size : Nat × Nat
  layout : Option (Layout W N)

namespace Canvas

variable {W N : Type} [Scalar W] [Scalar N] [Narrowing W N]

def create (site : Site W) : Canvas W N :=
  let size := fittingSize site.room
  ⟨site, size, if site.drawable then some (Layout.create (nat size.1) (nat size.2)) else none⟩

def withLayout (c : Canvas W N) (f : Layout W N → Layout W N) : Canvas W N :=
  { c with layout := c.layout.map f }

def load (c : Canvas W N) (s : Snapshot) : Canvas W N :=
  c.withLayout (·.load s)

def obey (c : Canvas W N) (aim : Aim) : Canvas W N :=
  c.withLayout (·.obey (CameraOrder.ofAim aim))

/-- Fills the room, which may have changed. A canvas without a layout keeps its size. -/
def fit (c : Canvas W N) : Canvas W N :=
  match c.layout with
  | none => c
  | some l =>
    let size := fittingSize c.site.room
    { c with size := size, layout := some (l.resize (nat size.1) (nat size.2)) }

/-- The room changes, and the canvas fills it. -/
def moveTo (c : Canvas W N) (room : Option (Int × Int)) : Canvas W N :=
  { c with site := { c.site with room := room } }.fit

/-- The point of the canvas at a point of the screen. -/
def pointAt (c : Canvas W N) (screen : Point W) : Point W :=
  screen.minus c.site.corner

/-- How long a frame lasts, in seconds. -/
def frameTime : N := nat 16 / nat 1000

end Canvas

end GraphViewer

import GraphViewer.Geometry.Scalar
/-
Points of the plane and their distance from a segment.
-/

namespace GraphViewer

open Scalar (nat zero one isZero clamp)

structure Point (α : Type) where
  x : α
  y : α
  deriving DecidableEq, Repr

variable {α : Type} [Scalar α]

/-- The length of a vector. -/
def Point.length (v : Point α) : α :=
  Scalar.sqrt (v.x * v.x + v.y * v.y)

def Point.minus (p q : Point α) : Point α :=
  ⟨p.x - q.x, p.y - q.y⟩

/-- The point of a segment at a part `t` of the way from `a` to `b`. -/
def pointAlong (a b : Point α) (t : α) : Point α :=
  ⟨a.x + t * (b.x - a.x), a.y + t * (b.y - a.y)⟩

/-- The part of the way from `a` to `b` at which the segment comes nearest to `p`. A segment of no length
is all at its start. -/
def nearestPart (p a b : Point α) : α :=
  let dx := b.x - a.x
  let dy := b.y - a.y
  let squared := dx * dx + dy * dy
  if isZero squared then zero
  else clamp zero one (((p.x - a.x) * dx + (p.y - a.y) * dy) / squared)

/-- The distance of `p` from the segment between `a` and `b`. -/
def segmentDistance (p a b : Point α) : α :=
  (p.minus (pointAlong a b (nearestPart p a b))).length

end GraphViewer

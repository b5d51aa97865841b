import GraphViewer.Geometry.Scalar
/-
The size of a node's label. Sizes are tried downwards one by one until the text fits into the node; the
label never disappears, and with no size that fits it has the smallest.
-/

namespace GraphViewer

open Scalar (nat)

structure LabelFit (α : Type) where
  size : Nat
  /-- The width of the text at this size. -/
  width : α
  /-- The sizes that the text was measured at, in this order. -/
  asked : List Nat
  deriving DecidableEq, Repr

variable {α : Type} [Scalar α]

/-- A text may stick out of its node by this much. -/
def labelOverhang : α := nat 2

/-- Labels are smaller than this. -/
def labelSizeLimit : Nat := 16

/-- Tries a size and those below it. Size 0 is the end of the search: it is asked for, and given up. -/
def fitBelow (measure : Nat → α) (radius : α) : Nat → LabelFit α
  | 0 => ⟨1, measure 1 - labelOverhang + labelOverhang, [0, 1]⟩
  | size + 1 =>
    let width := measure (size + 1) - labelOverhang
    if radius < width then
      let fit := fitBelow measure radius size
      { fit with asked := (size + 1) :: fit.asked }
    else ⟨size + 1, width + labelOverhang, [size + 1]⟩

/-- The fit of a text inside a radius, given how wide it is at each size. -/
def fitLabel (measure : Nat → α) (radius : α) : LabelFit α :=
  fitBelow measure radius (labelSizeLimit - 1)

end GraphViewer

import Mathlib.Analysis.SpecialFunctions.Trigonometric.Basic
import GraphViewer.Geometry.Segment
/-
Exact numbers. Whatever is worked out of scalars can be worked out of real numbers, where the laws hold that
are only nearly true of floating-point ones.
-/

namespace GraphViewer

noncomputable instance instScalarReal : Scalar ℝ where
  toAdd := inferInstance
  toSub := inferInstance
  toMul := inferInstance
  toDiv := inferInstance
  toNeg := inferInstance
  toLT := inferInstance
  toLE := inferInstance
  decideLt := inferInstance
  decideLe := inferInstance
  nat n := n
  sqrt := Real.sqrt
  sin := Real.sin
  cos := Real.cos
  trunc a := if a < 0 then ⌈a⌉ else ⌊a⌋
  pi := Real.pi

/-- Exact numbers are not narrowed at all. -/
instance instNarrowingReal : Narrowing ℝ ℝ where
  narrow a := a
  widen a := a

namespace Scalar

@[simp] theorem nat_real (n : ℕ) : (nat n : ℝ) = n := rfl

@[simp] theorem zero_real : (zero : ℝ) = 0 := Nat.cast_zero

@[simp] theorem one_real : (one : ℝ) = 1 := Nat.cast_one

end Scalar

/-- The length of the way between two points stays below a bound just if its square stays below the square
of the bound. -/
theorem Point.length_minus_lt_iff {p q : Point ℝ} {r : ℝ} (bound : 0 ≤ r) :
    (p.minus q).length < r ↔ (q.x - p.x) ^ 2 + (q.y - p.y) ^ 2 < r ^ 2 := by
  have same : (p.x - q.x) * (p.x - q.x) + (p.y - q.y) * (p.y - q.y) =
      (q.x - p.x) ^ 2 + (q.y - p.y) ^ 2 := by ring
  show √((p.x - q.x) * (p.x - q.x) + (p.y - q.y) * (p.y - q.y)) < r ↔ _
  rw [same]
  exact Real.sqrt_lt (by positivity) bound

end GraphViewer

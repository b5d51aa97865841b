import Mathlib.Analysis.Convex.Segment
import GraphViewer.Proofs.NearestPoint
import GraphViewer.Proofs.ZoomLimits
/-
How far a point is from a segment. The nearest point of the segment does not depend on the end from which it is
looked for, and it is the point itself just if that lies on the segment. A segment of no length is one point, and
is told apart before anything is divided by its length.
-/

namespace GraphViewer

variable {p a b : Point ℝ}

theorem segmentDistance_nonneg (p a b : Point ℝ) : 0 ≤ segmentDistance p a b :=
  Real.sqrt_nonneg _

theorem sq_length_minus (p q : Point ℝ) : (p.minus q).length ^ 2 = (p.x - q.x) ^ 2 + (p.y - q.y) ^ 2 := by
  rw [length_minus]
  exact Real.sq_sqrt (by positivity)

/-- There is no way between two points just if they are the same. -/
theorem length_minus_eq_zero_iff {q : Point ℝ} : (p.minus q).length = 0 ↔ p = q := by
  rw [← sq_eq_zero_iff, sq_length_minus, add_eq_zero_iff_of_nonneg (sq_nonneg _) (sq_nonneg _), sq_eq_zero_iff,
    sq_eq_zero_iff, sub_eq_zero, sub_eq_zero]
  cases p
  cases q
  rw [Point.mk.injEq]

/-- The way from the one end is what is left of the way from the other. -/
theorem pointAlong_back (a b : Point ℝ) (t : ℝ) : pointAlong b a (1 - t) = pointAlong a b t := by
  simp only [pointAlong, Point.mk.injEq]
  constructor <;> ring

theorem distances_subset_back (p a b : Point ℝ) : distances p a b ⊆ distances p b a := by
  rintro d ⟨t, ⟨least, most⟩, rfl⟩
  refine ⟨1 - t, ⟨sub_nonneg.2 most, sub_le_self 1 least⟩, ?_⟩
  rw [pointAlong_back]

theorem segmentDistance_comm (p a b : Point ℝ) : segmentDistance p a b = segmentDistance p b a := by
  have back := isLeast_segmentDistance p b a
  rw [(distances_subset_back p b a).antisymm (distances_subset_back p a b)] at back
  exact (isLeast_segmentDistance p a b).unique back

/-- The points of a segment are those that lie along it. -/
theorem mem_segment_iff :
    (p.x, p.y) ∈ segment ℝ (a.x, a.y) (b.x, b.y) ↔ ∃ t ∈ Set.Icc (0 : ℝ) 1, p = pointAlong a b t := by
  rw [segment_eq_image']
  refine exists_congr fun t => and_congr_right fun _ => ?_
  cases p
  simp only [pointAlong, Prod.mk_sub_mk, Prod.smul_mk, Prod.mk_add_mk, smul_eq_mul, Prod.mk.injEq, Point.mk.injEq,
    eq_comm]

theorem segmentDistance_eq_zero_iff :
    segmentDistance p a b = 0 ↔ (p.x, p.y) ∈ segment ℝ (a.x, a.y) (b.x, b.y) := by
  rw [mem_segment_iff]
  constructor
  · intro none
    exact ⟨_, nearestPart_mem p a b, length_minus_eq_zero_iff.1 none⟩
  · rintro ⟨t, part, on⟩
    have least := segmentDistance_le (p := p) (a := a) (b := b) part
    rw [length_minus_eq_zero_iff.2 on] at least
    exact least.antisymm (segmentDistance_nonneg p a b)

/-- The squares of the distances of a point from the points between two others. -/
def squaredDistances (p a b : Point ℝ) : Set ℝ :=
  {d | ∃ t ∈ Set.Icc (0 : ℝ) 1, d = (p.x - (a.x + t * (b.x - a.x))) ^ 2 + (p.y - (a.y + t * (b.y - a.y))) ^ 2}

theorem isLeast_sq_segmentDistance (p a b : Point ℝ) :
    IsLeast (squaredDistances p a b) (segmentDistance p a b ^ 2) := by
  constructor
  · exact ⟨_, nearestPart_mem p a b, sq_length_minus _ _⟩
  · rintro d ⟨t, part, rfl⟩
    calc segmentDistance p a b ^ 2
        ≤ (p.minus (pointAlong a b t)).length ^ 2 :=
          pow_le_pow_left₀ (segmentDistance_nonneg p a b) (segmentDistance_le part) 2
      _ = _ := sq_length_minus p (pointAlong a b t)

/-- The distance of a point from a segment. -/
structure KeepsDistance (p a b : Point ℝ) : Prop where
  nonneg : 0 ≤ segmentDistance p a b
  /-- No point of the segment is nearer, and one is as near, -/
  least : IsLeast (squaredDistances p a b) (segmentDistance p a b ^ 2)
  /-- whichever end is the first, -/
  comm : segmentDistance p a b = segmentDistance p b a
  /-- and only the points of the segment are not away from it. -/
  zero : segmentDistance p a b = 0 ↔ (p.x, p.y) ∈ segment ℝ (a.x, a.y) (b.x, b.y)
  /-- It does not depend on what a division by zero comes out at. -/
  divides : ∀ byZero, @segmentDistance ℝ (Layout.dividingByZero byZero) p a b = segmentDistance p a b

theorem keeps_distance (p a b : Point ℝ) : KeepsDistance p a b where
  nonneg := segmentDistance_nonneg p a b
  least := isLeast_sq_segmentDistance p a b
  comm := segmentDistance_comm p a b
  zero := segmentDistance_eq_zero_iff
  divides byZero := Layout.segmentDistance_dividingByZero byZero p a b

end GraphViewer

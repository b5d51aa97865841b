import Mathlib.Order.Bounds.Basic
import Mathlib.Tactic.Linarith
import GraphViewer.Proofs.Exact
/-
The point of a segment that is nearest to a given point. It is looked for on the whole line, and taken back to the
end that it lies beyond. In exact numbers no point of the segment is nearer than the one found in this way, also if
the segment has no length, so the distance from a segment is the least one from any of its points.
-/

namespace GraphViewer

open Scalar (zero one clamp isZero)

theorem Scalar.isZero_real (a : ℝ) : isZero a = true ↔ a = 0 := by
  rw [isZero, Bool.and_eq_true, decide_eq_true_eq, decide_eq_true_eq, zero_real, le_antisymm_iff]

/-- The square of the length of a segment. -/
def squaredLength (a b : Point ℝ) : ℝ :=
  (b.x - a.x) * (b.x - a.x) + (b.y - a.y) * (b.y - a.y)

/-- How far `p` is on from `a` in the direction of `b`, in lengths of the segment between them, times its length. -/
def onward (p a b : Point ℝ) : ℝ :=
  (p.x - a.x) * (b.x - a.x) + (p.y - a.y) * (b.y - a.y)

variable {p a b : Point ℝ}

theorem squaredLength_nonneg (a b : Point ℝ) : 0 ≤ squaredLength a b :=
  add_nonneg (mul_self_nonneg _) (mul_self_nonneg _)

theorem nearestPart_eq (p a b : Point ℝ) : nearestPart p a b =
    if squaredLength a b = 0 then 0 else clamp 0 1 (onward p a b / squaredLength a b) := by
  rw [← Scalar.zero_real, ← Scalar.one_real]
  refine ite_congr (propext ?_) (fun _ => rfl) fun _ => rfl
  rw [Scalar.zero_real]
  exact Scalar.isZero_real _

theorem nearestPart_mem (p a b : Point ℝ) : nearestPart p a b ∈ Set.Icc (0 : ℝ) 1 := by
  rw [nearestPart_eq]
  split
  · exact ⟨le_rfl, zero_le_one⟩
  · unfold clamp
    split
    · exact ⟨le_rfl, zero_le_one⟩
    · split
      · exact ⟨zero_le_one, le_rfl⟩
      · exact ⟨not_lt.1 ‹_›, not_lt.1 ‹_›⟩

/-- From the part found, any other part of the segment lies the way in which the distance grows. -/
theorem nearestPart_slope {t : ℝ} (part : t ∈ Set.Icc (0 : ℝ) 1) :
    0 ≤ (t - nearestPart p a b) * (nearestPart p a b * squaredLength a b - onward p a b) := by
  rw [nearestPart_eq]
  split
  · rename_i point
    -- a segment of no length goes in no direction
    have still : b.x - a.x = 0 ∧ b.y - a.y = 0 := by
      rwa [squaredLength, mul_self_add_mul_self_eq_zero] at point
    simp [onward, still]
  · rename_i long
    have positive : 0 < squaredLength a b := (squaredLength_nonneg a b).lt_of_ne' long
    unfold clamp
    split
    · rename_i before
      have back : onward p a b < 0 := by
        rwa [div_lt_iff₀ positive, zero_mul] at before
      exact mul_nonneg (sub_nonneg.2 part.1) (by linarith)
    · split
      · rename_i beyond
        have past : squaredLength a b < onward p a b := by
          rwa [lt_div_iff₀ positive, one_mul] at beyond
        exact mul_nonneg_of_nonpos_of_nonpos (sub_nonpos.2 part.2) (by linarith)
      · rw [div_mul_cancel₀ _ long, sub_self, mul_zero]

/-- The squared distance from a part of the segment, against the one from the part found. -/
theorem distance_sq_sub (p a b : Point ℝ) (s t : ℝ) :
    ((p.x - (pointAlong a b t).x) ^ 2 + (p.y - (pointAlong a b t).y) ^ 2) -
        ((p.x - (pointAlong a b s).x) ^ 2 + (p.y - (pointAlong a b s).y) ^ 2) =
      (t - s) ^ 2 * squaredLength a b + 2 * ((t - s) * (s * squaredLength a b - onward p a b)) := by
  simp only [pointAlong, squaredLength, onward]
  ring

theorem length_minus (p q : Point ℝ) : (p.minus q).length = √((p.x - q.x) ^ 2 + (p.y - q.y) ^ 2) := by
  rw [sq, sq]
  rfl

/-- No point of the segment is nearer. -/
theorem segmentDistance_le {t : ℝ} (part : t ∈ Set.Icc (0 : ℝ) 1) :
    segmentDistance p a b ≤ (p.minus (pointAlong a b t)).length := by
  rw [segmentDistance, length_minus, length_minus]
  refine Real.sqrt_le_sqrt (sub_nonneg.1 ?_)
  rw [distance_sq_sub]
  have slope := nearestPart_slope (p := p) (a := a) (b := b) part
  have square := mul_nonneg (sq_nonneg (t - nearestPart p a b)) (squaredLength_nonneg a b)
  linarith

/-- The distances of a point from the points of a segment. -/
def distances (p a b : Point ℝ) : Set ℝ :=
  {d | ∃ t ∈ Set.Icc (0 : ℝ) 1, d = (p.minus (pointAlong a b t)).length}

theorem isLeast_segmentDistance (p a b : Point ℝ) : IsLeast (distances p a b) (segmentDistance p a b) := by
  refine ⟨⟨_, nearestPart_mem p a b, rfl⟩, ?_⟩
  rintro d ⟨t, part, rfl⟩
  exact segmentDistance_le part

end GraphViewer

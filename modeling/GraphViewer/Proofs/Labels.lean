import GraphViewer.Frame
import GraphViewer.Proofs.Exact
/-
The size of a label. The widths of a text at different sizes need not have anything to do with each other. The
size that is found is still the largest one that fits: the search goes down one by one, and ends at the first
that does. If none does it comes to size 0, which is no size, and goes back to the smallest.
-/

namespace GraphViewer

/-- A size up to a limit at which a text does not stick out of its node by more than it may. -/
structure Fits (measure : Nat → ℝ) (radius : ℝ) (limit size : Nat) : Prop where
  positive : 1 ≤ size
  below : size ≤ limit
  narrow : measure size - 2 ≤ radius

/-- The sizes from one down to another. -/
def sizesDown (limit least : Nat) : List Nat :=
  (List.range' least (limit + 1 - least)).reverse

theorem sizesDown_self (limit : Nat) : sizesDown limit limit = [limit] := by
  simp [sizesDown]

theorem sizesDown_succ {limit least : Nat} (below : least ≤ limit + 1) :
    sizesDown (limit + 1) least = (limit + 1) :: sizesDown limit least := by
  have longer : limit + 1 + 1 - least = (limit + 1 - least) + 1 := by omega
  rw [sizesDown, sizesDown, longer, List.range'_concat, List.reverse_append, one_mul, Nat.add_sub_cancel' below]
  rfl

theorem length_sizesDown (limit least : Nat) : (sizesDown limit least).length = limit + 1 - least := by
  rw [sizesDown, List.length_reverse, List.length_range']

theorem mem_sizesDown {limit least size : Nat} : size ∈ sizesDown limit least ↔ least ≤ size ∧ size ≤ limit := by
  rw [sizesDown, List.mem_reverse, List.mem_range'_1]
  omega

section

variable {measure : Nat → ℝ} {radius : ℝ} {limit : Nat}

theorem Fits.mono {size : Nat} (fits : Fits measure radius limit size) : Fits measure radius (limit + 1) size :=
  { fits with below := Nat.le_succ_of_le fits.below }

theorem Fits.pred {size : Nat} (fits : Fits measure radius (limit + 1) size)
    (wide : radius < measure (limit + 1) - 2) : Fits measure radius limit size := by
  refine { fits with below := Nat.le_of_lt_succ (lt_of_le_of_ne fits.below ?_) }
  rintro rfl
  exact absurd fits.narrow (not_le.2 wide)

/-- A text that is too wide at the limit is tried at the sizes below it, -/
theorem fitBelow_of_wide (wide : radius < measure (limit + 1) - 2) : fitBelow measure radius (limit + 1) =
    { fitBelow measure radius limit with asked := (limit + 1) :: (fitBelow measure radius limit).asked } :=
  if_pos wide

/-- and one that is not has this size. -/
theorem fitBelow_of_fits (fits : measure (limit + 1) - 2 ≤ radius) :
    fitBelow measure radius (limit + 1) = ⟨limit + 1, measure (limit + 1), [limit + 1]⟩ := by
  have found : fitBelow measure radius (limit + 1) =
      ⟨limit + 1, measure (limit + 1) - 2 + 2, [limit + 1]⟩ := if_neg (not_lt.2 fits)
  rw [found, sub_add_cancel]

theorem fitBelow_zero : fitBelow measure radius 0 = ⟨1, measure 1, [0, 1]⟩ := by
  have found : fitBelow measure radius 0 = ⟨1, measure 1 - 2 + 2, [0, 1]⟩ := rfl
  rw [found, sub_add_cancel]

theorem width_fitBelow (measure : Nat → ℝ) (radius : ℝ) (limit : Nat) :
    (fitBelow measure radius limit).width = measure (fitBelow measure radius limit).size := by
  induction limit with
  | zero => rw [fitBelow_zero]
  | succ limit ih =>
    rcases lt_or_ge radius (measure (limit + 1) - 2) with wide | fits
    · rw [fitBelow_of_wide wide]
      exact ih
    · rw [fitBelow_of_fits fits]

/-- If some size fits, the search ends at the largest. -/
theorem isGreatest_fitBelow {size : Nat} (fits : Fits measure radius limit size) :
    IsGreatest {s | Fits measure radius limit s} (fitBelow measure radius limit).size ∧
      (fitBelow measure radius limit).asked = sizesDown limit (fitBelow measure radius limit).size := by
  induction limit with
  | zero =>
    exact absurd fits.positive (not_le.2 (Nat.lt_succ_of_le fits.below))
  | succ limit ih =>
    rcases lt_or_ge radius (measure (limit + 1) - 2) with wide | here
    · obtain ⟨⟨found, greatest⟩, asked⟩ := ih (fits.pred wide)
      rw [fitBelow_of_wide wide]
      refine ⟨⟨found.mono, fun s other => greatest (other.pred wide)⟩, ?_⟩
      rw [sizesDown_succ (Nat.le_succ_of_le found.below), asked]
    · rw [fitBelow_of_fits here]
      exact ⟨⟨⟨Nat.le_add_left 1 limit, le_rfl, here⟩, fun s other => other.below⟩, (sizesDown_self _).symm⟩

/-- If none does, every size is asked for, and then the smallest again. -/
theorem fitBelow_of_none (none : ∀ s, ¬ Fits measure radius limit s) :
    fitBelow measure radius limit = ⟨1, measure 1, sizesDown limit 1 ++ [0, 1]⟩ := by
  induction limit with
  | zero => exact fitBelow_zero
  | succ limit ih =>
    have wide : radius < measure (limit + 1) - 2 :=
      not_le.1 fun here => none (limit + 1) ⟨Nat.le_add_left 1 limit, le_rfl, here⟩
    rw [fitBelow_of_wide wide, ih fun s other => none s other.mono, sizesDown_succ (Nat.le_add_left 1 _)]
    rfl

end

/-- The fit of a text, given how wide it is at each size. -/
structure FitsBest (measure : Nat → ℝ) (radius : ℝ) (fit : LabelFit ℝ) : Prop where
  /-- Some size fits just if the search comes to the largest that does, and goes no further, -/
  fits : (∃ size, Fits measure radius (labelSizeLimit - 1) size) ↔
    IsGreatest {size | Fits measure radius (labelSizeLimit - 1) size} fit.size ∧
      fit.asked = sizesDown (labelSizeLimit - 1) fit.size
  /-- and none fits just if it goes on to size 0, and from there back to the smallest, which is taken. -/
  misfits : (∀ size, ¬ Fits measure radius (labelSizeLimit - 1) size) ↔
    fit.size = 1 ∧ fit.asked = sizesDown (labelSizeLimit - 1) 1 ++ [0, 1]
  /-- Either way the width is the one at the size that is taken, -/
  width : fit.width = measure fit.size
  /-- and the search soon comes to an end. -/
  few : fit.asked.length ≤ labelSizeLimit + 1

theorem fits_best (measure : Measure ℝ) (text : String) (radius : ℝ) :
    FitsBest (measure text) radius (fitLabel (measure text) radius) where
  fits := ⟨fun ⟨_, fits⟩ => isGreatest_fitBelow fits, fun found => ⟨_, found.1.1⟩⟩
  misfits := by
    constructor
    · intro none
      rw [fitLabel, fitBelow_of_none none]
      exact ⟨rfl, rfl⟩
    · rintro ⟨_, asked⟩ size fits
      obtain ⟨⟨found, _⟩, asked'⟩ := isGreatest_fitBelow fits
      -- a search that finds a size does not come to 0
      have zero : 0 ∈ (fitLabel (measure text) radius).asked :=
        asked ▸ List.mem_append_right _ List.mem_cons_self
      rw [fitLabel, asked', mem_sizesDown] at zero
      have positive := found.positive
      omega
  width := width_fitBelow _ _ _
  few := by
    by_cases fits : ∃ size, Fits (measure text) radius (labelSizeLimit - 1) size
    · obtain ⟨size, fits⟩ := fits
      rw [fitLabel, (isGreatest_fitBelow fits).2, length_sizesDown]
      have limit : labelSizeLimit = 16 := rfl
      omega
    · rw [fitLabel, fitBelow_of_none (not_exists.1 fits), List.length_append, length_sizesDown]
      rfl

end GraphViewer

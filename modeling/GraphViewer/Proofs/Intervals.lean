import Mathlib.Algebra.Order.Field.Power
import Mathlib.Data.Rat.Cast.Order
import Mathlib.Tactic.FieldSimp
import Mathlib.Tactic.Linarith
import Mathlib.Tactic.Positivity
import Mathlib.Tactic.Ring
import GraphViewer.Decimal.Shortest
/-
Which decimals read back as a double. The magnitudes of the doubles stand in a row, and each has an interval of
numbers around it that are read as it; where two of these intervals meet, only one of them has the common end. The
shortest decimal of a double lies in its interval, so it is not that of any other.
-/

namespace GraphViewer.Decimal

/-! ## Values -/

def Ratio.value (r : Ratio) : ℚ :=
  r.num / r.den

def Scaled.value (s : Scaled) : ℚ :=
  s.digits * 10 ^ s.exponent

/-- A number of quarters of the step from a double to the next. -/
def Binary.quarters (b : Binary) (n : ℕ) : ℚ :=
  n * 2 ^ (b.exponent - 2)

theorem zpow_toNat {e : ℤ} (nonneg : 0 ≤ e) (a : ℚ) : a ^ e = a ^ e.toNat := by
  conv_lhs => rw [← Int.toNat_of_nonneg nonneg, zpow_natCast]

theorem zpow_neg_toNat {e : ℤ} (neg : ¬ 0 ≤ e) (a : ℚ) : a ^ e = (a ^ (-e).toNat)⁻¹ := by
  rw [← zpow_natCast, Int.toNat_of_nonneg (by omega), zpow_neg, inv_inv]

theorem Ratio.scaleTwo_value (r : Ratio) (e : ℤ) : (r.scaleTwo e).value = r.value * 2 ^ e := by
  unfold scaleTwo
  split
  · rename_i nonneg
    simp [value, zpow_toNat nonneg, div_mul_eq_mul_div]
  · rename_i neg
    simp [value, zpow_neg_toNat neg, div_eq_mul_inv, mul_assoc, mul_comm]

theorem Ratio.unscaleTen_value (r : Ratio) (e : ℤ) : (r.unscaleTen e).value = r.value / 10 ^ e := by
  unfold unscaleTen
  split
  · rename_i nonneg
    simp [value, zpow_toNat nonneg, div_div]
  · rename_i neg
    simp [value, zpow_neg_toNat neg, div_mul_eq_mul_div]

theorem Ratio.scaleTwo_den_pos {r : Ratio} (pos : 0 < r.den) (e : ℤ) : 0 < (r.scaleTwo e).den := by
  unfold scaleTwo
  split
  · exact pos
  · exact Nat.mul_pos pos (Nat.pow_pos (by decide))

theorem Ratio.scaleTwo_num_pos {r : Ratio} (pos : 0 < r.num) (e : ℤ) : 0 < (r.scaleTwo e).num := by
  unfold scaleTwo
  split
  · exact Nat.mul_pos pos (Nat.pow_pos (by decide))
  · exact pos

theorem Ratio.unscaleTen_den_pos {r : Ratio} (pos : 0 < r.den) (e : ℤ) : 0 < (r.unscaleTen e).den := by
  unfold unscaleTen
  split
  · exact Nat.mul_pos pos (Nat.pow_pos (by decide))
  · exact pos

theorem digitCount_pos (n : ℕ) : 0 < digitCount n :=
  Nat.length_toDigits_pos

theorem lt_pow_digitCount (n : ℕ) : n < 10 ^ digitCount n :=
  (Nat.length_toDigits_le_iff (by decide) (digitCount_pos n)).1 (Nat.le_refl _)

theorem pow_le_of_lt_digitCount {n k : ℕ} (pos : 0 < n) (less : k < digitCount n) : 10 ^ k ≤ n := by
  rcases Nat.eq_zero_or_pos k with rfl | more
  · exact pos
  · by_contra lt
    have := (Nat.length_toDigits_le_iff (b := 10) (by decide) more).2 (Nat.lt_of_not_le lt)
    exact absurd less (Nat.not_lt.2 this)

/-- A positive number is not below the place of its first digit. -/
theorem Ratio.ten_pow_magnitude_le {r : Ratio} (num : 0 < r.num) (den : 0 < r.den) :
    (10 : ℚ) ^ r.magnitude ≤ r.value := by
  have denPos : (0 : ℚ) < r.den := by exact_mod_cast den
  rw [value, le_div_iff₀ denPos]
  simp only [magnitude]
  split
  · rename_i le
    have count := digitCount_pos (r.num / r.den)
    have low : 10 ^ (digitCount (r.num / r.den) - 1) ≤ r.num / r.den :=
      pow_le_of_lt_digitCount (Nat.div_pos le den) (by omega)
    have exp : ((digitCount (r.num / r.den) : ℤ) - 1).toNat = digitCount (r.num / r.den) - 1 := by omega
    rw [zpow_toNat (by omega), exp]
    exact_mod_cast (Nat.mul_le_mul_right _ low).trans (Nat.div_mul_le_self _ _)
  · have count := digitCount_pos (r.den / r.num)
    split
    · rename_i fits
      have exp : (1 : ℤ) - digitCount (r.den / r.num) = -((digitCount (r.den / r.num) - 1 : ℕ) : ℤ) := by omega
      rw [exp, zpow_neg, zpow_natCast, inv_mul_le_iff₀ (by positivity), mul_comm]
      exact_mod_cast fits
    · have high := (Nat.div_lt_iff_lt_mul num).1 (lt_pow_digitCount (r.den / r.num))
      rw [zpow_neg, zpow_natCast, inv_mul_le_iff₀ (by positivity)]
      exact_mod_cast high.le

/-! ## Intervals -/

/-- A number is read as the double. The ends of the interval are only if the mantissa is even. -/
structure Binary.Reads (b : Binary) (q : ℚ) : Prop where
  low : b.quarters b.below ≤ q
  high : q ≤ b.quarters b.above
  inner : b.mantissa % 2 = 1 → b.quarters b.below < q ∧ q < b.quarters b.above

theorem pow52 : Nat.pow 2 52 = 4503599627370496 :=
  rfl

theorem pow53 : Nat.pow 2 53 = 9007199254740992 :=
  rfl

/-- The magnitudes of the doubles, from zero up. -/
def Binary.nth (k : ℕ) : Binary :=
  if k / Nat.pow 2 52 = 0 then ⟨k % Nat.pow 2 52, -1074⟩
  else ⟨k % Nat.pow 2 52 + Nat.pow 2 52, (k / Nat.pow 2 52 : ℕ) - 1075⟩

namespace Binary

/-- After a magnitude comes the one with the next mantissa, or the least of those with the next exponent. -/
theorem nth_succ (k : ℕ) :
    nth (k + 1) = ⟨(nth k).mantissa + 1, (nth k).exponent⟩ ∧
        ((nth k).mantissa + 1 ≠ Nat.pow 2 52 ∨ (nth k).exponent = -1074) ∨
      (nth k).mantissa + 1 = Nat.pow 2 53 ∧ nth (k + 1) = ⟨Nat.pow 2 52, (nth k).exponent + 1⟩ ∧
        -1074 ≤ (nth k).exponent := by
  simp only [nth, pow52, pow53]
  split <;> split <;> simp only [Binary.mk.injEq, and_true, or_true] <;> omega

theorem nth_mantissa_pos {k : ℕ} (pos : 0 < k) : 0 < (nth k).mantissa := by
  simp only [nth, pow52]
  split <;> dsimp only <;> omega

theorem nth_mantissa_lt (k : ℕ) : (nth k).mantissa < Nat.pow 2 53 := by
  simp only [nth, pow52, pow53]
  split <;> dsimp only <;> omega

theorem nth_mantissa_mod (k : ℕ) : (nth k).mantissa % 2 = k % 2 := by
  simp only [nth, pow52]
  split <;> dsimp only <;> omega

/-- The interval of a magnitude begins where the one before it ends. -/
theorem nth_meets (k : ℕ) : (nth k).quarters (nth k).above = (nth (k + 1)).quarters (nth (k + 1)).below := by
  rcases nth_succ k with ⟨next, even⟩ | ⟨full, next, least⟩
  · have below : (nth (k + 1)).below = (nth k).above := by
      simp only [next, Binary.below, Binary.above]
      split <;> omega
    rw [below, next]
    rfl
  · have below : (nth (k + 1)).below * 2 = (nth k).above := by
      rw [pow53] at full
      have normal : (nth (k + 1)).mantissa = Nat.pow 2 52 ∧ (nth (k + 1)).exponent ≠ -1074 := by
        rw [next]
        exact ⟨rfl, by dsimp only; omega⟩
      rw [Binary.below, Binary.above, if_pos normal, normal.1, pow52]
      omega
    have exp : (nth k).exponent + 1 - 2 = (nth k).exponent - 2 + 1 := by omega
    rw [← below, next, quarters, quarters, exp, zpow_add_one₀ (by decide)]
    push_cast
    ring

variable {b : Binary} {j k : ℕ} {q : ℚ}

theorem quarters_lt (b : Binary) {m n : ℕ} : b.quarters m < b.quarters n ↔ m < n := by
  rw [quarters, quarters, mul_lt_mul_iff_left₀ (by positivity)]
  exact Nat.cast_lt

theorem ends_lt (b : Binary) : b.quarters b.below < b.quarters b.above := by
  rw [quarters_lt, below, above]
  split <;> omega

theorem nth_le (less : j < k) : (nth j).quarters (nth j).above ≤ (nth k).quarters (nth k).below := by
  induction k, less using Nat.le_induction with
  | base => exact (nth_meets j).le
  | succ k _ ih => exact ih.trans ((nth k).ends_lt.le.trans (nth_meets k).le)

theorem nth_lt (less : j + 1 < k) : (nth j).quarters (nth j).above < (nth k).quarters (nth k).below :=
  (nth_meets j).trans_lt (((nth (j + 1)).ends_lt).trans_le (nth_le less))

/-- No number is read as two different magnitudes: neighbours share an end, but one of the mantissas is odd. -/
theorem Reads.le (reads : (nth j).Reads q) (reads' : (nth k).Reads q) : k ≤ j := by
  by_contra less
  rw [Nat.not_le] at less
  rcases Nat.lt_or_eq_of_le (show j + 1 ≤ k from less) with far | rfl
  · exact absurd (reads.high.trans_lt ((nth_lt far).trans_le reads'.low)) (lt_irrefl q)
  · have parity := nth_mantissa_mod j
    have parity' := nth_mantissa_mod (j + 1)
    rcases Nat.mod_two_eq_zero_or_one j with even | odd
    · have := (reads'.inner (by omega)).1
      exact absurd (this.trans_le reads.high) (nth_meets j).not_gt
    · have := (reads.inner (by omega)).2
      exact absurd (reads'.low.trans_lt this) (nth_meets j).not_gt

theorem Reads.unique (reads : (nth j).Reads q) (reads' : (nth k).Reads q) : j = k :=
  Nat.le_antisymm (reads'.le reads) (reads.le reads')

/-! ## The grid -/

/-- The place of the last of some decimal digits. -/
def unit (b : Binary) (count : ℕ) : ℤ :=
  (Ratio.scaleTwo ⟨4 * b.mantissa, 1⟩ (b.exponent - 2)).magnitude - (count : ℤ) + 1

/-- A number of quarters in units of a place. -/
def inUnits (b : Binary) (unit : ℤ) (n : ℕ) : Ratio :=
  (Ratio.scaleTwo ⟨n, 1⟩ (b.exponent - 2)).unscaleTen unit

/-- Whether the decimal with these digits is read as the number. -/
def readsDigits (b : Binary) (unit : ℤ) (d : ℕ) : Bool :=
  let den := (b.inUnits unit (4 * b.mantissa)).den
  let low := (b.inUnits unit b.below).num
  let high := (b.inUnits unit b.above).num
  if b.mantissa % 2 == 0 then low ≤ d * den && d * den ≤ high else low < d * den && d * den < high

theorem inUnits_value (b : Binary) (unit : ℤ) (n : ℕ) : (b.inUnits unit n).value = b.quarters n / 10 ^ unit := by
  rw [inUnits, Ratio.unscaleTen_value, Ratio.scaleTwo_value, Ratio.value, quarters]
  simp

theorem inUnits_den (b : Binary) (unit : ℤ) (m n : ℕ) : (b.inUnits unit m).den = (b.inUnits unit n).den := by
  simp only [inUnits, Ratio.scaleTwo, Ratio.unscaleTen]
  split <;> split <;> rfl

theorem inUnits_den_pos (b : Binary) (unit : ℤ) (n : ℕ) : 0 < (b.inUnits unit n).den :=
  Ratio.unscaleTen_den_pos (Ratio.scaleTwo_den_pos Nat.one_pos _) _

theorem le_inUnits_iff {unit : ℤ} {d m n : ℕ} :
    d * (b.inUnits unit m).den ≤ (b.inUnits unit n).num ↔ d * (10 : ℚ) ^ unit ≤ b.quarters n := by
  have den : (0 : ℚ) < (b.inUnits unit n).den := by exact_mod_cast b.inUnits_den_pos unit n
  rw [b.inUnits_den unit m n, ← le_div_iff₀ (by positivity), ← inUnits_value, Ratio.value, le_div_iff₀ den]
  exact_mod_cast Iff.rfl

theorem inUnits_le_iff {unit : ℤ} {d m n : ℕ} :
    (b.inUnits unit n).num ≤ d * (b.inUnits unit m).den ↔ b.quarters n ≤ d * (10 : ℚ) ^ unit := by
  have den : (0 : ℚ) < (b.inUnits unit n).den := by exact_mod_cast b.inUnits_den_pos unit n
  rw [b.inUnits_den unit m n, ← div_le_iff₀ (by positivity), ← inUnits_value, Ratio.value, div_le_iff₀ den]
  exact_mod_cast Iff.rfl

theorem readsDigits_iff {unit : ℤ} {d : ℕ} : b.readsDigits unit d = true ↔ b.Reads (Scaled.value ⟨d, unit⟩) := by
  unfold readsDigits Scaled.value
  rcases Nat.mod_two_eq_zero_or_one b.mantissa with even | odd
  · simp only [even, beq_self_eq_true, if_true, Bool.and_eq_true, decide_eq_true_eq, inUnits_le_iff, le_inUnits_iff]
    exact ⟨fun h => ⟨h.1, h.2, by omega⟩, fun h => ⟨h.low, h.high⟩⟩
  · simp only [odd, show (1 == 0) = false from rfl, Bool.false_eq_true, if_false, Bool.and_eq_true,
      decide_eq_true_eq, ← not_le, inUnits_le_iff, le_inUnits_iff]
    simp only [not_le]
    exact ⟨fun h => ⟨h.1.le, h.2.le, fun _ => h⟩, fun h => h.inner odd⟩

/-- The digits next below the number. -/
def digitsBelow (b : Binary) (unit : ℤ) : ℕ :=
  (b.inUnits unit (4 * b.mantissa)).num / (b.inUnits unit (4 * b.mantissa)).den

theorem onGrid?_eq (b : Binary) (count : ℕ) : ∃ preferDown : Bool, b.onGrid? count =
    match b.readsDigits (b.unit count) (b.digitsBelow (b.unit count)),
      b.readsDigits (b.unit count) (b.digitsBelow (b.unit count) + 1) with
    | true, true => some ⟨if preferDown then b.digitsBelow (b.unit count) else b.digitsBelow (b.unit count) + 1,
        b.unit count⟩
    | true, false => some ⟨b.digitsBelow (b.unit count), b.unit count⟩
    | false, true => some ⟨b.digitsBelow (b.unit count) + 1, b.unit count⟩
    | false, false => none :=
  ⟨_, rfl⟩

theorem onGrid?_reads {count : ℕ} {s : Scaled} (found : b.onGrid? count = some s) : b.Reads s.value := by
  obtain ⟨preferDown, equal⟩ := b.onGrid?_eq count
  rw [equal] at found
  split at found
  · rename_i down up
    cases found
    cases preferDown
    · exact readsDigits_iff.1 up
    · exact readsDigits_iff.1 down
  · rename_i down _
    cases found
    exact readsDigits_iff.1 down
  · rename_i _ up
    cases found
    exact readsDigits_iff.1 up
  · cases found

theorem onGrid?_ne_none {count : ℕ}
    (reads : b.Reads (Scaled.value ⟨b.digitsBelow (b.unit count), b.unit count⟩) ∨
      b.Reads (Scaled.value ⟨b.digitsBelow (b.unit count) + 1, b.unit count⟩)) : b.onGrid? count ≠ none := by
  obtain ⟨preferDown, equal⟩ := b.onGrid?_eq count
  rw [← readsDigits_iff, ← readsDigits_iff] at reads
  rw [equal]
  split
  · exact Option.some_ne_none _
  · exact Option.some_ne_none _
  · exact Option.some_ne_none _
  · rename_i down up
    simp [down, up] at reads

/-! ## Seventeen digits -/

/-- The number in units of the last of seventeen digits. -/
theorem seventeen_le (pos : 0 < b.mantissa) :
    (10 : ℚ) ^ 16 ≤ b.quarters (4 * b.mantissa) / 10 ^ b.unit 17 := by
  have magnitude : (10 : ℚ) ^ (b.unit 17 + 16) ≤ b.quarters (4 * b.mantissa) := by
    have value := Ratio.scaleTwo_value ⟨4 * b.mantissa, 1⟩ (b.exponent - 2)
    have num : 0 < (Ratio.scaleTwo ⟨4 * b.mantissa, 1⟩ (b.exponent - 2)).num :=
      Ratio.scaleTwo_num_pos (Nat.mul_pos (by decide) pos) _
    have le := Ratio.ten_pow_magnitude_le num (Ratio.scaleTwo_den_pos Nat.one_pos _)
    rw [value] at le
    have place : b.unit 17 + 16 = (Ratio.scaleTwo ⟨4 * b.mantissa, 1⟩ (b.exponent - 2)).magnitude := by
      simp only [unit]
      omega
    rw [place, quarters]
    simpa [Ratio.value] using le
  rw [le_div_iff₀ (by positivity), ← zpow_natCast, ← zpow_add₀ (by norm_num), add_comm]
  exact magnitude

/-- Half a unit of the last of seventeen digits does not reach the ends of the interval. -/
theorem half_unit_lt (pos : 0 < b.mantissa) (lt : b.mantissa < Nat.pow 2 53) :
    b.quarters b.below < b.quarters (4 * b.mantissa) - 10 ^ b.unit 17 / 2 ∧
      b.quarters (4 * b.mantissa) + 10 ^ b.unit 17 / 2 < b.quarters b.above := by
  have units := b.seventeen_le pos
  rw [le_div_iff₀ (by positivity)] at units
  have step : (0 : ℚ) < 2 ^ (b.exponent - 2) := by positivity
  have few : (b.mantissa : ℚ) ≤ 9007199254740991 := by
    rw [pow53] at lt
    exact_mod_cast Nat.le_of_lt_succ lt
  simp only [quarters, above, below, pow52] at units ⊢
  push_cast at units ⊢
  have most := mul_le_mul_of_nonneg_right few step.le
  refine ⟨?_, by linarith⟩
  split
  · rename_i boundary
    rw [boundary.1] at units ⊢
    push_cast at units ⊢
    linarith
  · rw [Nat.cast_sub (by omega)]
    push_cast
    linarith

theorem onGrid?_seventeen (pos : 0 < b.mantissa) (lt : b.mantissa < Nat.pow 2 53) : b.onGrid? 17 ≠ none := by
  obtain ⟨low, high⟩ := half_unit_lt pos lt
  have down : b.digitsBelow (b.unit 17) * (10 : ℚ) ^ b.unit 17 ≤ b.quarters (4 * b.mantissa) :=
    le_inUnits_iff.1 (Nat.div_mul_le_self _ _)
  have up : b.quarters (4 * b.mantissa) < ((b.digitsBelow (b.unit 17) + 1 : ℕ) : ℚ) * 10 ^ b.unit 17 := by
    rw [← not_le, ← le_inUnits_iff (m := 4 * b.mantissa), Nat.not_le]
    exact (Nat.div_lt_iff_lt_mul (inUnits_den_pos _ _ _)).1 (Nat.lt_succ_self _)
  have unit : (0 : ℚ) < 10 ^ b.unit 17 := by positivity
  apply onGrid?_ne_none
  push_cast at up
  rcases le_total (b.quarters (4 * b.mantissa) - b.digitsBelow (b.unit 17) * (10 : ℚ) ^ b.unit 17)
    (10 ^ b.unit 17 / 2) with near | far
  · refine .inl ⟨?_, ?_, fun _ => ⟨?_, ?_⟩⟩ <;> simp only [Scaled.value] <;> linarith
  · refine .inr ⟨?_, ?_, fun _ => ⟨?_, ?_⟩⟩ <;> simp only [Scaled.value] <;> push_cast <;> linarith

/-! ## The shortest decimal -/

theorem dropZeros_value (fuel : ℕ) (s : Scaled) : (s.dropZeros fuel).value = s.value := by
  fun_induction Scaled.dropZeros fuel s with
  | case1 => rfl
  | case2 fuel s zero ih =>
    have digits : ((s.digits : ℕ) : ℚ) = (s.digits / 10 : ℕ) * 10 := by
      exact_mod_cast (Nat.div_mul_cancel (Nat.dvd_of_mod_eq_zero zero)).symm
    rw [ih, Scaled.value, Scaled.value, digits, zpow_add_one₀ (by norm_num)]
    ring
  | case3 => rfl

theorem shortest_reads (pos : 0 < b.mantissa) (lt : b.mantissa < Nat.pow 2 53) : b.Reads b.shortest.value := by
  unfold shortest
  split
  · rename_i s found
    obtain ⟨n, -, found⟩ := List.exists_of_findSome?_eq_some found
    rw [dropZeros_value]
    exact onGrid?_reads found
  · rename_i none
    exact absurd (List.findSome?_eq_none_iff.1 none 16 (by decide)) (onGrid?_seventeen pos lt)

theorem Reads.pos (reads : b.Reads q) (pos : 0 < b.mantissa) : 0 < q := by
  have low : b.quarters 0 < b.quarters b.below := by
    rw [quarters_lt, below]
    split <;> omega
  have zero : b.quarters 0 = 0 := by simp [quarters]
  exact (zero ▸ low).trans_le reads.low

theorem shortest_pos (pos : 0 < k) : 0 < (nth k).shortest.value :=
  (shortest_reads (nth_mantissa_pos pos) (nth_mantissa_lt k)).pos (nth_mantissa_pos pos)

/-- No two magnitudes have one shortest decimal. -/
theorem shortest_inj (first : 0 < j) (second : 0 < k) (same : (nth j).shortest.value = (nth k).shortest.value) :
    j = k := by
  have reads := shortest_reads (nth_mantissa_pos first) (nth_mantissa_lt j)
  rw [same] at reads
  exact reads.unique (shortest_reads (nth_mantissa_pos second) (nth_mantissa_lt k))

end Binary

/-! ## Doubles -/

/-- The place of a double among the magnitudes. -/
def place (x : Float) : ℕ :=
  x.toBits.toNat % Nat.pow 2 63

theorem Binary.ofFloat_eq (x : Float) : ofFloat x = nth (place x) := by
  have low : place x % Nat.pow 2 52 = x.toBits.toNat % Nat.pow 2 52 :=
    Nat.mod_mod_of_dvd _ ⟨Nat.pow 2 11, rfl⟩
  have high : place x / Nat.pow 2 52 = x.toBits.toNat / Nat.pow 2 52 % Nat.pow 2 11 :=
    Nat.mod_mul_right_div_self _ (Nat.pow 2 52) (Nat.pow 2 11)
  rw [nth, low, high]
  rfl

theorem isNegative_iff (x : Float) : isNegative x = true ↔ Nat.pow 2 63 ≤ x.toBits.toNat := by
  have bits := x.toBits.toNat_lt
  have top : (x.toBits >>> 63).toNat = x.toBits.toNat / Nat.pow 2 63 := by
    simp [Nat.shiftRight_eq_div_pow]
  rw [isNegative, beq_iff_eq, ← UInt64.toNat_inj, top]
  show x.toBits.toNat / 9223372036854775808 = 1 ↔ 9223372036854775808 ≤ _
  omega

/-- A double is its sign and its magnitude. -/
theorem eq_of_place {x y : Float} (sign : isNegative x = isNegative y) (same : place x = place y) : x = y := by
  have bits : x.toBits = y.toBits := by
    have first := x.toBits.toNat_lt
    have second := y.toBits.toNat_lt
    rw [← UInt64.toNat_inj]
    rw [Bool.eq_iff_iff, isNegative_iff, isNegative_iff] at sign
    simp only [place, show Nat.pow 2 63 = 9223372036854775808 from rfl] at sign same
    omega
  obtain ⟨⟨_, _⟩⟩ := x
  obtain ⟨⟨_, _⟩⟩ := y
  cases bits
  rfl

section Zero

open Float.Model UnpackedFloat

theorem compare_zero_iff (f : UnpackedFloat) : f.compare (.zero .positive) = some .eq ↔ ∃ s, f = .zero s := by
  cases f with
  | zero s => exact iff_of_true rfl ⟨s, rfl⟩
  | notANumber => exact iff_of_false nofun nofun
  | infinity s => cases s <;> exact iff_of_false nofun nofun
  | finite s => cases s <;> exact iff_of_false nofun nofun

theorem unpack_zero_iff (b : BitVec Format.binary64.numBits) : (∃ s, UnpackedFloat.unpack .binary64 b = .zero s) ↔
    unpackExponent b = 0#_ ∧ unpackMantissa b = 0#_ := by
  unfold UnpackedFloat.unpack
  dsimp only
  by_cases top : unpackExponent b = -1#_
  · rw [if_pos top]
    refine iff_of_false ?_ fun zero => ?_
    · by_cases none : unpackMantissa b = 0#_
      · rw [if_pos none]
        rintro ⟨_, ⟨⟩⟩
      · rw [if_neg none]
        rintro ⟨_, ⟨⟩⟩
    · rw [zero.1] at top
      exact absurd top (by decide)
  · rw [if_neg top]
    by_cases least : unpackExponent b = 0#_
    · rw [if_pos least]
      by_cases none : unpackMantissa b = 0#_
      · rw [dif_pos none]
        exact iff_of_true ⟨_, rfl⟩ ⟨least, none⟩
      · rw [dif_neg none]
        refine iff_of_false ?_ fun zero => none zero.2
        rintro ⟨_, ⟨⟩⟩
    · rw [if_neg least]
      refine iff_of_false ?_ fun zero => least zero.1
      rintro ⟨_, ⟨⟩⟩

theorem beq_zero_iff (x : Float) : (x == 0) = true ↔ place x = 0 := by
  have fields : place x = 0 ↔ @unpackExponent .binary64 x.toBits.toBitVec = 0#_ ∧
      @unpackMantissa .binary64 x.toBits.toBitVec = 0#_ := by
    simp only [unpackExponent, unpackMantissa, ← BitVec.toNat_inj]
    simp [Nat.shiftRight_eq_div_pow, place]
    omega
  rw [fields, ← unpack_zero_iff, ← compare_zero_iff]
  show ((UnpackedFloat.unpack .binary64 x.toBits.toBitVec).compare (.zero .positive) == some .eq) = true ↔ _
  exact beq_iff_eq

end Zero

end GraphViewer.Decimal

import Mathlib.Data.List.Forall2
import Mathlib.Tactic.IntervalCases
import GraphViewer.Json.Value
import GraphViewer.Json.Scalar
import GraphViewer.Proofs.Intervals
import GraphViewer.Proofs.Spelling
/-
What the text of a number tells. The text is that of a number as it can stand in a document, an integer without a
fraction or an exponent and a double with one of them, and it has the value of the shortest decimal. So two numbers
with one text are the same number.
-/

namespace GraphViewer.Json

open Decimal

/-! ## Digits -/

/-- What some characters are as digits. -/
abbrev Figures (ds : List ℕ) (cs : List Char) : Prop :=
  List.Forall₂ (fun d c => digit? c = some d) ds cs

variable {ds es : List ℕ} {cs cs' : List Char} {n m : Numeral} {negative : Bool}

theorem Digits.of_figures (figures : Figures ds cs) (filled : ds ≠ []) : Digits ds cs := by
  induction figures with
  | nil => exact absurd rfl filled
  | @cons d c ds cs digit later ih =>
    cases later with
    | nil => exact .one digit
    | cons => exact .more digit (ih (List.cons_ne_nil _ _))

theorem figures_replicate (n : ℕ) : Figures (List.replicate n 0) (List.replicate n '0') := by
  induction n with
  | zero => exact .nil
  | succ n ih => exact .cons rfl ih

theorem foldl_digits (ds : List ℕ) (s : ℕ) :
    ds.foldl (fun n d => n * 10 + d) s = s * 10 ^ ds.length + digitsValue ds := by
  induction ds generalizing s with
  | nil => simp [digitsValue]
  | cons d ds ih =>
    rw [digitsValue, List.foldl_cons, List.foldl_cons, ih, ih, List.length_cons]
    ring

theorem digitsValue_append (ds es : List ℕ) :
    digitsValue (ds ++ es) = digitsValue ds * 10 ^ es.length + digitsValue es := by
  rw [digitsValue, List.foldl_append, foldl_digits]
  rfl

@[simp]
theorem digitsValue_nil : digitsValue [] = 0 :=
  rfl

@[simp]
theorem digitsValue_cons (d : ℕ) (ds : List ℕ) : digitsValue (d :: ds) = d * 10 ^ ds.length + digitsValue ds := by
  have split := digitsValue_append [d] ds
  simpa [digitsValue] using split

@[simp]
theorem digitsValue_replicate (n : ℕ) : digitsValue (List.replicate n 0) = 0 := by
  induction n with
  | zero => rfl
  | succ n ih => exact ih

theorem digit?_digitChar {d : ℕ} (less : d < 10) : digit? d.digitChar = some d := by
  interval_cases d <;> rfl

/-- The digits of a natural number do not begin with zero, unless it is zero. -/
theorem figures_toDigits (n : ℕ) : ∃ ds, Figures ds (Nat.toDigits 10 n) ∧ ds ≠ [] ∧ digitsValue ds = n ∧
    (n ≠ 0 → ds.head? ≠ some 0) := by
  induction n using Nat.strongRecOn with
  | ind n ih =>
    rcases Nat.lt_or_ge n 10 with less | more
    · refine ⟨[n], ?_, by simp, by simp [digitsValue], by simp⟩
      rw [Nat.toDigits_of_lt_base less]
      exact .cons (digit?_digitChar less) .nil
    · obtain ⟨ds, figures, filled, value, leading⟩ := ih (n / 10) (Nat.div_lt_self (by omega) (by decide))
      refine ⟨ds ++ [n % 10], ?_, by simp, ?_, fun _ => ?_⟩
      · rw [Nat.toDigits_of_base_le (by decide) more]
        exact List.rel_append figures (.cons (digit?_digitChar (Nat.mod_lt _ (by decide))) .nil)
      · rw [digitsValue_append, value]
        simp only [digitsValue, List.length_singleton, List.foldl_cons, List.foldl_nil]
        omega
      · rw [List.head?_append_of_ne_nil _ filled]
        exact leading (by omega)

theorem whole_toDigits (n : ℕ) : ∃ ds, Whole ds (Nat.toDigits 10 n) ∧ digitsValue ds = n := by
  by_cases zero : n = 0
  · subst zero
    exact ⟨[0], .zero, rfl⟩
  · obtain ⟨ds, figures, filled, value, leading⟩ := figures_toDigits n
    exact ⟨ds, .digits (.of_figures figures filled) (leading zero), value⟩

/-! ## The value of a numeral -/

/-- The place of the last digit. -/
def Numeral.power (n : Numeral) : ℤ :=
  (match n.exponent with
    | none => 0
    | some (down, ds) => if down then -(digitsValue ds : ℤ) else digitsValue ds) - (n.fraction.getD []).length

/-- The exact value, but for the sign. -/
def Numeral.magnitude (n : Numeral) : ℚ :=
  digitsValue (n.whole ++ n.fraction.getD []) * 10 ^ n.power

theorem Numeral.magnitude_eq {v : ℕ} {p : ℤ} (digits : digitsValue (n.whole ++ n.fraction.getD []) = v)
    (power : n.power = p) : n.magnitude = v * 10 ^ p := by
  rw [magnitude, digits, power]

/-- A numeral has a fraction or an exponent. -/
def Numeral.Fractional (n : Numeral) : Prop :=
  n.fraction ≠ none ∨ n.exponent ≠ none

/-- A text has only one numeral. -/
theorem Numeral.Spelt.unique (spelt : n.Spelt cs) (spelt' : m.Spelt cs) : n = m := by
  have apart : Apart [] := nofun
  cases spelt with
  | plain unsigned =>
    cases spelt' with
    | plain unsigned' =>
      have scanned := unsigned.scan apart
      rw [unsigned'.scan apart] at scanned
      exact (congrArg Prod.fst scanned).symm
    | minus =>
      obtain ⟨_, _, ⟨⟩, digit⟩ := unsigned.head
      cases digit
  | minus unsigned =>
    cases spelt' with
    | plain unsigned' =>
      obtain ⟨_, _, ⟨⟩, digit⟩ := unsigned'.head
      cases digit
    | minus unsigned' =>
      have scanned := unsigned.scan apart
      rw [unsigned'.scan apart] at scanned
      exact (congrArg Prod.fst scanned).symm

/-- Digits with a point in the place where `whole` of them stand before it. -/
theorem spelt_placePoint (negative : Bool) (figures : Figures ds cs) (filled : ds ≠ [])
    (leading : ds.head? ≠ some 0) (whole : ℤ) : ∃ n : Numeral, n.Unsigned negative (placePoint cs whole) ∧
      n.Fractional ∧ n.magnitude = digitsValue ds * 10 ^ (whole - ds.length) := by
  have lengths := figures.length_eq
  unfold placePoint
  split
  · rename_i small
    have places := List.rel_append (figures_replicate (-whole).toNat) figures
    have spelt : Numeral.Unsigned negative _ _ := .mk .zero
      (.places (.of_figures places (by simp [filled]))) .absent
    refine ⟨_, by simpa using spelt, .inl (Option.some_ne_none _), Numeral.magnitude_eq ?_ ?_⟩
    · simp [digitsValue_append]
    · simp [Numeral.power]
      omega
  · split
    · rename_i large long
      have digits := List.rel_append figures (figures_replicate (whole.toNat - ds.length))
      have spelt : Numeral.Unsigned negative _ _ := .mk
        (.digits (.of_figures digits (by simp [filled])) (by rwa [List.head?_append_of_ne_nil _ filled]))
        (.places (.one (c := '0') rfl)) .absent
      refine ⟨_, by simpa [lengths] using spelt, .inl (Option.some_ne_none _), ?_⟩
      have zeros : (whole - ds.length : ℤ) = (whole.toNat - ds.length : ℕ) := by omega
      simp [Numeral.magnitude, Numeral.power, digitsValue_append, zeros]
      rw [pow_succ, lengths]
      ring
    · rename_i large short
      have before := List.forall₂_take whole.toNat figures
      have after := List.forall₂_drop whole.toNat figures
      have spelt : Numeral.Unsigned negative _ _ := .mk
        (.digits (.of_figures before (by simp [filled]; omega)) (by rw [List.head?_take]; split <;> simp [leading]))
        (.places (.of_figures after (by simp; omega))) .absent
      refine ⟨_, by simpa using spelt, .inl (Option.some_ne_none _), Numeral.magnitude_eq ?_ ?_⟩
      · show digitsValue (ds.take whole.toNat ++ ds.drop whole.toNat) = _
        rw [List.take_append_drop]
      · simp [Numeral.power]
        omega

/-- Digits with a point after the first one and an exponent. -/
theorem spelt_withExponent (negative : Bool) (figures : Figures ds cs) (filled : ds ≠ [])
    (leading : ds.head? ≠ some 0) (exponent : ℤ) : ∃ n : Numeral, n.Unsigned negative (withExponent cs exponent) ∧
      n.Fractional ∧ n.magnitude = digitsValue ds * 10 ^ (exponent - (ds.length - 1)) := by
  obtain ⟨es, powers, nonempty, value, -⟩ := figures_toDigits exponent.natAbs
  have sign : Sign (decide (exponent < 0)) [if exponent < 0 then '-' else '+'] := by
    split
    · rename_i down
      rw [decide_eq_true down]
      exact .minus
    · rename_i up
      rw [decide_eq_false up]
      exact .plus
  have powered : (if decide (exponent < 0) then -(digitsValue es : ℤ) else digitsValue es) = exponent := by
    simp only [value, decide_eq_true_eq]
    split <;> omega
  have power : Exponent _ ('e' :: _) := .power (by simp) sign (.of_figures powers nonempty)
  cases figures with
  | nil => exact absurd rfl filled
  | @cons d c ds cs digit figures =>
    have whole : Whole [d] [c] := .digits (.one digit) leading
    cases figures with
    | nil =>
      have spelt : Numeral.Unsigned negative _ _ := .mk whole .absent power
      refine ⟨_, spelt, .inr (Option.some_ne_none _), Numeral.magnitude_eq ?_ ?_⟩
      · simp
      · simp only [Numeral.power, powered]
        simp
    | @cons d' c' ds' cs' digit' figures' =>
      have places := Digits.of_figures (.cons digit' figures') (List.cons_ne_nil _ _)
      have spelt : Numeral.Unsigned negative _ _ := .mk whole (.places places) power
      refine ⟨_, spelt, .inr (Option.some_ne_none _), Numeral.magnitude_eq ?_ ?_⟩
      · simp
      · simp only [Numeral.power, powered]
        simp

theorem spelt_scaledChars (negative : Bool) {s : Scaled} (pos : s.digits ≠ 0) :
    ∃ n : Numeral, n.Unsigned negative (scaledChars s) ∧ n.Fractional ∧ n.magnitude = s.value := by
  obtain ⟨ds, figures, filled, value, leading⟩ := figures_toDigits s.digits
  have lengths := figures.length_eq
  simp only [scaledChars]
  split
  · obtain ⟨n, spelt, fractional, magnitude⟩ := spelt_placePoint negative figures filled (leading pos)
      (s.exponent + (Nat.toDigits 10 s.digits).length - 1 + 1)
    refine ⟨n, spelt, fractional, ?_⟩
    rw [magnitude, value, Scaled.value]
    congr 2
    omega
  · obtain ⟨n, spelt, fractional, magnitude⟩ := spelt_withExponent negative figures filled (leading pos)
      (s.exponent + (Nat.toDigits 10 s.digits).length - 1)
    refine ⟨n, spelt, fractional, ?_⟩
    rw [magnitude, value, Scaled.value]
    congr 2
    omega

/-! ## The text of a number -/

/-- A numeral with this sign and after it these characters. -/
theorem Numeral.Unsigned.spelt (unsigned : n.Unsigned negative cs) :
    n.Spelt ((if negative then ['-'] else []) ++ cs) := by
  cases negative with
  | false => exact .plain unsigned
  | true => exact .minus unsigned

/-- What a numeral says of the number whose text it is. -/
def Numeral.Tells (n : Numeral) : Number → Prop
  | .integer i => ¬ n.Fractional ∧ n.negative = decide (i < 0) ∧ digitsValue n.whole = i.natAbs
  | .double x => n.Fractional ∧ n.negative = isNegative x ∧
      n.magnitude = if x == 0 then 0 else (Binary.ofFloat x).shortest.value

theorem Numeral.Tells.unique {x y : Number} (tells : n.Tells x) (tells' : n.Tells y) : x = y := by
  cases x with
  | integer i =>
    cases y with
    | integer j =>
      obtain ⟨-, sign, value⟩ := tells
      obtain ⟨-, sign', value'⟩ := tells'
      rw [sign, decide_eq_decide] at sign'
      rw [value] at value'
      congr 1
      omega
    | double y => exact absurd tells'.1 tells.1
  | double x =>
    cases y with
    | integer j => exact absurd tells.1 tells'.1
    | double y =>
      obtain ⟨-, sign, value⟩ := tells
      obtain ⟨-, sign', value'⟩ := tells'
      rw [sign] at sign'
      rw [value] at value'
      refine congrArg Number.double (eq_of_place sign' ?_)
      simp only [beq_zero_iff, Binary.ofFloat_eq] at value'
      rcases Nat.eq_zero_or_pos (place x) with zero | pos <;> rcases Nat.eq_zero_or_pos (place y) with zero' | pos'
      · rw [zero, zero']
      · rw [if_pos zero, if_neg pos'.ne'] at value'
        exact absurd value' (Binary.shortest_pos pos').ne
      · rw [if_neg pos.ne', if_pos zero'] at value'
        exact absurd value'.symm (Binary.shortest_pos pos).ne
      · rw [if_neg pos.ne', if_neg pos'.ne'] at value'
        exact Binary.shortest_inj pos pos' value'

theorem Numeral.Unsigned.sign (unsigned : n.Unsigned negative cs) : n.negative = negative := by
  cases unsigned
  rfl

theorem integer_chars (i : ℤ) :
    (Number.integer i).chars = (if decide (i < 0) then ['-'] else []) ++ Nat.toDigits 10 i.natAbs := by
  cases i with
  | ofNat n =>
    show (toString n).toList = _
    rw [Nat.toString_eq_ofList_toDigits]
    simp
  | negSucc n =>
    show ("-" ++ toString (n + 1)).toList = _
    rw [Nat.toString_eq_ofList_toDigits]
    simp

/-- The text of a number is that of a numeral which tells it. -/
theorem Number.spelt (x : Number) : ∃ n : Numeral, n.Spelt x.chars ∧ n.Tells x := by
  cases x with
  | integer i =>
    obtain ⟨ds, whole, value⟩ := whole_toDigits i.natAbs
    have unsigned : Numeral.Unsigned (decide (i < 0)) _ _ := .mk whole .absent .absent
    have spelt := unsigned.spelt
    rw [List.append_nil, List.append_nil, ← integer_chars] at spelt
    exact ⟨_, spelt, by simp [Numeral.Fractional], rfl, value⟩
  | double x =>
    simp only [chars, doubleChars, Numeral.Tells]
    by_cases zero : x == 0
    · have unsigned : Numeral.Unsigned (isNegative x) _ _ := .mk .zero (.places (.one (c := '0') rfl)) .absent
      have spelt := unsigned.spelt
      refine ⟨_, by simpa [zero] using spelt, .inl (Option.some_ne_none _), rfl, ?_⟩
      simp [zero, Numeral.magnitude]
    · have pos : 0 < place x := by
        rw [beq_zero_iff] at zero
        omega
      have digits : (Binary.ofFloat x).shortest.digits ≠ 0 := by
        intro none
        have value := Binary.shortest_pos pos
        rw [← Binary.ofFloat_eq, Scaled.value, none] at value
        simp at value
      obtain ⟨n, unsigned, fractional, magnitude⟩ := spelt_scaledChars (isNegative x) digits
      have spelt := unsigned.spelt
      refine ⟨n, by simpa [zero] using spelt, fractional, unsigned.sign, ?_⟩
      rw [if_neg zero, magnitude]

/-- No two numbers have one text. -/
theorem Number.text_injective : Function.Injective Number.text := by
  intro x y same
  obtain ⟨n, spelt, tells⟩ := x.spelt
  obtain ⟨m, spelt', tells'⟩ := y.spelt
  rw [String.ofList_injective same] at spelt
  obtain rfl := spelt.unique spelt'
  exact tells.unique tells'

end GraphViewer.Json

import Mathlib.Data.Nat.Digits.Lemmas
import GraphViewer.Proofs.Members
import GraphViewer.Proofs.NumberText
/-
Integers in a document. One that fits 64 bits is kept as it is, any other one is read as a double, and so is zero
with a sign. As ids, two integers have one name just if they are the same, with the same sign, or are read as the
same double.
-/

namespace GraphViewer.Json

variable {ds es : List ℕ} {cs cs' : List Char} {n m : Numeral} {s : ℕ}

/-! ## Integers as written -/

/-- A numeral without fraction and exponent. -/
def Numeral.IsInteger (n : Numeral) : Prop :=
  (∃ cs, n.Spelt cs) ∧ ¬ n.Fractional

def Numeral.integer (n : Numeral) : ℤ :=
  if n.negative then -digitsValue n.whole else digitsValue n.whole

/-- An integer that is kept, because it fits 64 bits with a sign or without. Zero has no sign then. -/
def Numeral.Exact (n : Numeral) : Prop :=
  -2 ^ 63 ≤ n.integer ∧ n.integer < 2 ^ 64 ∧ (n.negative = true → n.integer ≠ 0)

theorem Numeral.IsInteger.cases (integer : n.IsInteger) :
    ∃ negative ds cs, Whole ds cs ∧ n = ⟨negative, ds, none, none, .complete⟩ := by
  obtain ⟨⟨cs, spelt⟩, plain⟩ := integer
  have unsigned : ∃ negative cs, n.Unsigned negative cs := by
    cases spelt with
    | plain unsigned => exact ⟨_, _, unsigned⟩
    | minus unsigned => exact ⟨_, _, unsigned⟩
  obtain ⟨negative, cs, whole, fraction, exponent⟩ := unsigned
  cases fraction with
  | absent =>
    cases exponent with
    | absent => exact ⟨_, _, _, whole, rfl⟩
    | power => exact absurd (.inr (Option.some_ne_none _)) plain
  | places => exact absurd (.inl (Option.some_ne_none _)) plain

theorem Whole.isInteger (whole : Whole ds cs) (negative : Bool) :
    (⟨negative, ds, none, none, .complete⟩ : Numeral).IsInteger :=
  ⟨⟨_, (Numeral.Unsigned.mk whole .absent .absent).spelt⟩, by simp [Numeral.Fractional]⟩

theorem digitsValue_eq_ofDigits (ds : List ℕ) : digitsValue ds = Nat.ofDigits 10 ds.reverse := by
  induction ds with
  | nil => rfl
  | cons d ds ih =>
    rw [digitsValue_cons, ih, List.reverse_cons, Nat.ofDigits_append]
    simp
    ring

theorem digit?_lt {c : Char} {d : ℕ} (digit : digit? c = some d) : d < 10 := by
  unfold digit? at digit
  split at digit
  · rename_i between
    cases digit
    simp only [Bool.and_eq_true, decide_eq_true_eq, Char.le_def] at between
    have high : c.toNat ≤ '9'.toNat := between.2
    simp at high
    omega
  · cases digit

theorem Digits.lt (digits : Digits ds cs) : ∀ d ∈ ds, d < 10 := by
  induction digits with
  | one digit => simpa using digit?_lt digit
  | more digit _ ih =>
    rintro d among
    rcases List.mem_cons.1 among with rfl | later
    · exact digit?_lt digit
    · exact ih d later

/-- The digits of a number without a leading zero. -/
theorem Digits.reverse_eq (digits : Digits ds cs) (leading : ds.head? ≠ some 0) :
    ds.reverse = Nat.digits 10 (digitsValue ds) := by
  rw [digitsValue_eq_ofDigits, Nat.digits_ofDigits 10 (by decide)]
  · simpa using digits.lt
  · intro filled zero
    rw [List.getLast_reverse] at zero
    exact leading (by rw [List.head?_eq_some_head digits.ne_nil, zero])

/-- The same number is written with the same digits. -/
theorem Whole.ext (whole : Whole ds cs) (whole' : Whole es cs') (same : digitsValue ds = digitsValue es) :
    ds = es := by
  have nonzero {es : List ℕ} {cs : List Char} (digits : Digits es cs) (leading : es.head? ≠ some 0) :
      digitsValue es ≠ 0 := by
    intro zero
    have none := digits.reverse_eq leading
    rw [zero, Nat.digits_zero, List.reverse_eq_nil_iff] at none
    exact digits.ne_nil none
  cases whole with
  | zero =>
    cases whole' with
    | zero => rfl
    | digits digits leading => exact absurd same.symm (nonzero digits leading)
  | digits digits leading =>
    cases whole' with
    | zero => exact absurd same (nonzero digits leading)
    | digits digits' leading' =>
      rw [← List.reverse_inj, digits.reverse_eq leading, digits'.reverse_eq leading', same]

/-- An integer is written in one way, but for the sign of zero. -/
theorem Numeral.IsInteger.ext (integer : n.IsInteger) (integer' : m.IsInteger) (same : n.integer = m.integer)
    (sign : n.negative = m.negative) : n = m := by
  obtain ⟨negative, ds, _, whole, rfl⟩ := integer.cases
  obtain ⟨_, es, _, whole', rfl⟩ := integer'.cases
  obtain rfl : negative = _ := sign
  have values : digitsValue ds = digitsValue es := by
    cases negative <;> simpa [Numeral.integer] using same
  rw [whole.ext whole' values]

/-! ## Integers as read -/

/-- The number that is reached with some digits left is reached with the next of them taken. -/
theorem digitsValue_shift (s d : ℕ) (ds : List ℕ) :
    s * 10 ^ (d :: ds).length + digitsValue (d :: ds) = (s * 10 + d) * 10 ^ ds.length + digitsValue ds := by
  rw [digitsValue_cons, List.length_cons]
  ring

theorem gather_fits (fits : s * 10 ^ ds.length + digitsValue ds < Nat.pow 2 64) :
    gather s ds = (s * 10 ^ ds.length + digitsValue ds, ds.length) := by
  induction ds generalizing s with
  | nil => simp [gather]
  | cons d ds ih =>
    rw [digitsValue_shift] at fits ⊢
    have small : s * 10 + d < Nat.pow 2 64 :=
      (Nat.le_mul_of_pos_right _ (by positivity)).trans_lt ((Nat.le_add_right _ _).trans_lt fits)
    rw [gather, if_neg (Nat.not_le.2 small), ih fits]
    rfl

theorem gather_short (small : s < Nat.pow 2 64) (long : Nat.pow 2 64 ≤ s * 10 ^ ds.length + digitsValue ds) :
    (gather s ds).2 < ds.length := by
  induction ds generalizing s with
  | nil =>
    simp only [List.length_nil, digitsValue_nil, Nat.pow_zero] at long
    omega
  | cons d ds ih =>
    rw [gather]
    split
    · simp
    · rename_i fits
      rw [digitsValue_shift] at long
      exact Nat.succ_lt_succ (ih (Nat.lt_of_not_le fits) long)

section

variable {negative : Bool}

theorem Numeral.number_of_fits (fits : digitsValue ds < Nat.pow 2 64) :
    (⟨negative, ds, none, none, .complete⟩ : Numeral).number = .ok (wholeNumber negative (digitsValue ds)) := by
  have all : gather 0 ds = (digitsValue ds, ds.length) := by
    have value : 0 * 10 ^ ds.length + digitsValue ds = digitsValue ds := by simp
    rw [gather_fits (by rwa [value]), value]
  simp [Numeral.number, all]

theorem Numeral.number_of_long (long : Nat.pow 2 64 ≤ digitsValue ds) :
    (∃ x, (⟨negative, ds, none, none, .complete⟩ : Numeral).number = .ok (.double x)) ∨
      (⟨negative, ds, none, none, .complete⟩ : Numeral).number = .error .outOfRange := by
  have some : ds.length - (gather 0 ds).2 ≠ 0 := by
    have short : (gather 0 ds).2 < ds.length := gather_short (by decide) (by simpa using long)
    omega
  simp only [Numeral.number, if_neg some]
  split
  · exact .inl ⟨_, rfl⟩
  · exact .inr rfl

end

/-- An integer of 64 bits is kept as it is. -/
theorem Numeral.number_exact (integer : n.IsInteger) (exact : n.Exact) : n.number = .ok (.integer n.integer) := by
  obtain ⟨negative, ds, _, -, rfl⟩ := integer.cases
  obtain ⟨least, most, sign⟩ := exact
  cases negative with
  | false =>
    simp only [Numeral.integer, Bool.false_eq_true, if_false] at most ⊢
    rw [number_of_fits (by exact_mod_cast most)]
    rfl
  | true =>
    have sign := sign rfl
    simp only [Numeral.integer, if_true] at least sign ⊢
    have small : 1 ≤ digitsValue ds ∧ digitsValue ds ≤ Nat.pow 2 63 := by
      show _ ∧ digitsValue ds ≤ 9223372036854775808
      omega
    have fits : digitsValue ds < Nat.pow 2 64 := small.2.trans_lt (by decide)
    rw [number_of_fits fits, wholeNumber, if_neg (by simp), if_pos small]

/-- Any other integer is read as a double, if it is not beyond all of them. -/
theorem Numeral.number_rough (integer : n.IsInteger) (rough : ¬ n.Exact) :
    (∃ x, n.number = .ok (.double x)) ∨ n.number = .error .outOfRange := by
  obtain ⟨negative, ds, _, -, rfl⟩ := integer.cases
  rcases Nat.lt_or_ge (digitsValue ds) (Nat.pow 2 64) with fits | long
  · refine .inl ?_
    rw [number_of_fits fits]
    cases negative with
    | false =>
      refine absurd ⟨?_, ?_, nofun⟩ rough
      · simp only [Numeral.integer, Bool.false_eq_true, if_false]
        omega
      · simp only [Numeral.integer, Bool.false_eq_true, if_false]
        exact_mod_cast fits
    | true =>
      have large : ¬ (1 ≤ digitsValue ds ∧ digitsValue ds ≤ Nat.pow 2 63) := by
        rintro ⟨some, small⟩
        refine rough ⟨?_, ?_, ?_⟩ <;> simp only [Numeral.integer, if_true]
        · have small : (digitsValue ds : ℤ) ≤ 2 ^ 63 := by exact_mod_cast small
          omega
        · omega
        · omega
      rw [wholeNumber, if_neg (by simp), if_neg large]
      exact ⟨_, rfl⟩
  · exact number_of_long long

/-! ## Names -/

/-- The text that stands for a number as an id. -/
def Numeral.name? (n : Numeral) : Option String :=
  n.number.toOption.map Number.text

/-- Two integers are read as one double. -/
def Numeral.Merged (n m : Numeral) : Prop :=
  ∃ x, n.number = .ok (.double x) ∧ m.number = .ok (.double x)

theorem Numeral.name?_eq_some_iff {text : String} :
    n.name? = some text ↔ ∃ x, n.number = .ok x ∧ x.text = text := by
  cases h : n.number <;> simp [name?, h, Except.toOption]

theorem Decode.name_number (room : ℕ) (n : Numeral) (text : String) :
    Decode.name room (.number n) = .ok text ↔ n.name? = some text := by
  rw [Numeral.name?_eq_some_iff]
  simp only [name, value, Tree.value, bind_eq_ok_iff, flawed_eq_ok_iff]
  constructor
  · rintro ⟨_, ⟨x, read, ⟨⟩⟩, named⟩
    exact ⟨x, read, Except.ok.inj named⟩
  · rintro ⟨x, read, rfl⟩
    exact ⟨_, ⟨x, read, rfl⟩, rfl⟩

theorem Numeral.name_exact (integer : n.IsInteger) (exact : n.Exact) : n.name? = some (toString n.integer) := by
  rw [name?, number_exact integer exact]
  simp [Except.toOption, Number.text, Number.chars]

theorem Numeral.Merged.rough (integer : n.IsInteger) (merged : n.Merged m) : ¬ n.Exact := by
  intro exact
  obtain ⟨x, double, -⟩ := merged
  rw [number_exact integer exact] at double
  cases double

theorem Numeral.Merged.symm (merged : n.Merged m) : m.Merged n :=
  merged.imp fun _ => And.symm

theorem Numeral.number_eq_integer_iff (integer : n.IsInteger) {i : ℤ} :
    n.number = .ok (.integer i) ↔ n.Exact ∧ n.integer = i := by
  by_cases exact : n.Exact
  · simp [number_exact integer exact, exact]
  · rcases number_rough integer exact with ⟨x, double⟩ | none
    · simp [double, exact]
    · simp [none, exact]

theorem Numeral.Exact.negative_iff (exact : n.Exact) : n.negative = true ↔ n.integer < 0 := by
  obtain ⟨-, -, sign⟩ := exact
  unfold integer at sign ⊢
  split
  · rename_i negative
    have sign := sign negative
    rw [if_pos negative] at sign
    exact iff_of_true negative (by omega)
  · rename_i positive
    exact iff_of_false positive (by omega)

/-- Two integers have one name: they are the same, with the same sign even if they are zero, or they are read as one
double, which happens only to integers that do not fit 64 bits. -/
def Numeral.SameId (n m : Numeral) : Prop :=
  n.integer = m.integer ∧ n.negative = m.negative ∨ n.Merged m

theorem Numeral.SameId.name_eq (same : n.SameId m) (integer : n.IsInteger) (integer' : m.IsInteger) :
    n.name? = m.name? := by
  rcases same with ⟨same, sign⟩ | ⟨x, double, double'⟩
  · rw [integer.ext integer' same sign]
  · rw [name?, name?, double, double']

theorem Numeral.sameId_of_named (integer : n.IsInteger) (integer' : m.IsInteger) {text : String}
    (named : n.name? = some text) (named' : m.name? = some text) : n.SameId m := by
  obtain ⟨x, read, rfl⟩ := name?_eq_some_iff.1 named
  obtain ⟨y, read', same⟩ := name?_eq_some_iff.1 named'
  obtain rfl := Number.text_injective same
  cases y with
  | integer i =>
    obtain ⟨exact, value⟩ := (number_eq_integer_iff integer).1 read
    obtain ⟨exact', value'⟩ := (number_eq_integer_iff integer').1 read'
    refine .inl ⟨value.trans value'.symm, ?_⟩
    rw [Bool.eq_iff_iff, exact.negative_iff, exact'.negative_iff, value, value']
  | double x => exact .inr ⟨x, read, read'⟩

theorem Numeral.name_eq_iff (integer : n.IsInteger) (integer' : m.IsInteger) {text : String}
    (named : n.name? = some text) : n.name? = m.name? ↔ n.SameId m :=
  ⟨fun same => sameId_of_named integer integer' named (same ▸ named), fun same => same.name_eq integer integer'⟩

/-- An integer that fits has its name in common with no other one. -/
theorem Numeral.Exact.sameId_iff (exact : m.Exact) (integer : m.IsInteger) :
    n.SameId m ↔ n.Exact ∧ n.integer = m.integer := by
  constructor
  · rintro (⟨same, sign⟩ | merged)
    · exact ⟨by rwa [Exact, same, sign], same⟩
    · exact absurd exact (merged.symm.rough integer)
  · rintro ⟨exact', same⟩
    refine .inl ⟨same, ?_⟩
    rw [Bool.eq_iff_iff, exact'.negative_iff, exact.negative_iff, same]

/-- The same integer is not read as one double with a sign and without. -/
theorem Numeral.Merged.sign (merged : n.Merged m) (integer : n.IsInteger) (integer' : m.IsInteger)
    (same : n.integer = m.integer) : n.negative = m.negative := by
  -- both signs are left only to zero, and without a sign that is kept
  have exact {n m : Numeral} (plain : n.negative = false) (signed : m.negative = true)
      (same : n.integer = m.integer) : n.Exact := by
    simp only [Exact, Numeral.integer, plain, signed, Bool.false_eq_true, if_false, if_true] at same ⊢
    refine ⟨?_, ?_, nofun⟩ <;> omega
  cases sign : n.negative <;> cases sign' : m.negative
  · rfl
  · exact absurd (exact sign sign' same) (merged.rough integer)
  · exact absurd (exact sign' sign same.symm) (merged.symm.rough integer')
  · rfl

end GraphViewer.Json

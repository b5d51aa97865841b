/-
The shortest decimal that reads back as a given double: of all decimals in the interval of reals that
round to it, one with the fewest digits, and of those the nearest.
-/

namespace GraphViewer.Decimal

/-- The positive number `mantissa * 2 ^ exponent`. -/
structure Binary where
  mantissa : Nat
  exponent : Int
  deriving DecidableEq, Repr

/-- The number `digits * 10 ^ exponent`. -/
structure Scaled where
  digits : Nat
  exponent : Int
  deriving DecidableEq, Repr

/-- The sign bit. -/
def isNegative (x : Float) : Bool :=
  x.toBits >>> 63 == 1

/-- The magnitude of a finite double. -/
def Binary.ofFloat (x : Float) : Binary :=
  let bits : Nat := x.toBits.toNat
  let fraction : Nat := bits % Nat.pow 2 52
  let biased : Nat := bits / Nat.pow 2 52 % Nat.pow 2 11
  if biased = 0 then ⟨fraction, -1074⟩ else ⟨fraction + Nat.pow 2 52, (biased : Int) - 1075⟩

/-- A positive fraction. -/
structure Ratio where
  num : Nat
  den : Nat
  deriving DecidableEq, Repr

/-- `r * 2 ^ e`. -/
def Ratio.scaleTwo (r : Ratio) (e : Int) : Ratio :=
  if 0 ≤ e then ⟨r.num * Nat.pow 2 e.toNat, r.den⟩ else ⟨r.num, r.den * Nat.pow 2 (-e).toNat⟩

/-- `r / 10 ^ e`. -/
def Ratio.unscaleTen (r : Ratio) (e : Int) : Ratio :=
  if 0 ≤ e then ⟨r.num, r.den * Nat.pow 10 e.toNat⟩ else ⟨r.num * Nat.pow 10 (-e).toNat, r.den⟩

/-- The number of decimal digits of a natural number. -/
def digitCount (n : Nat) : Nat :=
  (Nat.toDigits 10 n).length

/-- The exponent of the leading digit: `10 ^ e ≤ r < 10 ^ (e + 1)`. -/
def Ratio.magnitude (r : Ratio) : Int :=
  if r.den ≤ r.num then (digitCount (r.num / r.den) : Int) - 1
  else
    let d := digitCount (r.den / r.num)
    if r.den ≤ r.num * Nat.pow 10 (d - 1) then 1 - (d : Int) else -(d : Int)

/-- The lower end of the interval of reals that read back as the number, in quarters of its step. Below a
power of two the doubles are twice as dense. -/
def Binary.below (b : Binary) : Nat :=
  if b.mantissa = Nat.pow 2 52 ∧ b.exponent ≠ -1074 then 4 * b.mantissa - 1 else 4 * b.mantissa - 2

/-- The upper end of that interval. Both ends belong to it if the mantissa is even. -/
def Binary.above (b : Binary) : Nat :=
  4 * b.mantissa + 2

/-- The decimals of `count` digits next to the number, if one of them reads back as it. -/
def Binary.onGrid? (b : Binary) (count : Nat) : Option Scaled :=
  let value := Ratio.scaleTwo ⟨4 * b.mantissa, 1⟩ (b.exponent - 2)
  let unit := value.magnitude - (count : Int) + 1
  let inUnits (quarters : Nat) : Ratio :=
    (Ratio.scaleTwo ⟨quarters, 1⟩ (b.exponent - 2)).unscaleTen unit
  let ⟨num, den⟩ := inUnits (4 * b.mantissa)
  let low := (inUnits b.below).num
  let high := (inUnits b.above).num
  let closed := b.mantissa % 2 == 0
  let reads (d : Nat) : Bool :=
    if closed then low ≤ d * den && d * den ≤ high else low < d * den && d * den < high
  let down := num / den
  let up := down + 1
  let left := num - down * den
  let right := up * den - num
  let preferDown := left < right || (left == right && down % 2 == 0)
  match reads down, reads up with
  | true, true => some ⟨if preferDown then down else up, unit⟩
  | true, false => some ⟨down, unit⟩
  | false, true => some ⟨up, unit⟩
  | false, false => none

/-- The same number without zeros at the end of its digits; `fuel` bounds how many. -/
def Scaled.dropZeros : Nat → Scaled → Scaled
  | 0, s => s
  | fuel + 1, s => if s.digits % 10 = 0 then dropZeros fuel ⟨s.digits / 10, s.exponent + 1⟩ else s

/-- Seventeen digits always suffice. -/
def Binary.shortest (b : Binary) : Scaled :=
  match (List.range 17).findSome? fun n => b.onGrid? (n + 1) with
  | some s => s.dropZeros 18
  | none => ⟨b.mantissa, b.exponent⟩

end GraphViewer.Decimal

import GraphViewer.Decimal.Shortest
/-
A double as a text without decimal places. The exact value is rounded, and a half goes to the even
neighbour; the sign bit is shown even where nothing else is left of the number.
-/

namespace GraphViewer.Decimal

/-- The quotient rounded to the nearest natural number, a half to the even one. -/
def roundHalfEven (num den : Nat) : Nat :=
  let down := num / den
  let twice := 2 * (num % den)
  if twice < den then down
  else if den < twice then down + 1
  else down + down % 2

/-- The nearest natural number to a positive one. -/
def Binary.rounded (b : Binary) : Nat :=
  let r := Ratio.scaleTwo ⟨b.mantissa, 1⟩ b.exponent
  roundHalfEven r.num r.den

/-- The text of a double with no decimal places. -/
def wholeText (x : Float) : String :=
  let mark := if isNegative x then "-" else ""
  if x.isNaN then "NaN"
  else if x.isInf then mark ++ "inf"
  else mark ++ toString (Binary.ofFloat x).rounded

end GraphViewer.Decimal

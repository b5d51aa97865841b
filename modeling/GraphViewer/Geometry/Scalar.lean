/-
The numbers that positions are worked out in. `Scalar` names the operations and asks for no law, so that
the same geometry runs on floating-point numbers and can be reasoned about over exact ones. Positions of
nodes are kept in narrower numbers than everything else.
-/

namespace GraphViewer

class Scalar (α : Type) extends Add α, Sub α, Mul α, Div α, Neg α, LT α, LE α where
  decideLt : DecidableLT α
  decideLe : DecidableLE α
  nat : Nat → α
  sqrt : α → α
  sin : α → α
  cos : α → α
  /-- The whole part, towards zero. -/
  trunc : α → α
  pi : α

namespace Scalar

variable {α : Type} [Scalar α]

instance : DecidableLT α := decideLt
instance : DecidableLE α := decideLe

def zero : α := nat 0

def one : α := nat 1

/-- Equal to zero, as a comparison finds it. -/
def isZero (a : α) : Bool :=
  a ≤ zero && zero ≤ a

/-- The number, or the end of the range that it lies beyond. -/
def clamp (low high a : α) : α :=
  if a < low then low else if high < a then high else a

/-- The number if it lies inside the range, and otherwise the nearer end. What lies on neither side of the
lower end counts as below it. -/
def confine (low high a : α) : α :=
  if low < a then (if a < high then a else high) else low

/-- The distance from the whole part. -/
def fract (a : α) : α :=
  a - trunc a

end Scalar

/-- Conversions between the two kinds of numbers in use. -/
class Narrowing (W N : Type) where
  narrow : W → N
  widen : N → W

instance : Scalar Float where
  decideLt := inferInstance
  decideLe := inferInstance
  nat := Float.ofNat
  sqrt := Float.sqrt
  sin := Float.sin
  cos := Float.cos
  trunc a := if a < 0 then a.ceil else a.floor
  pi := 3.141592653589793

instance : Scalar Float32 where
  decideLt := inferInstance
  decideLe := inferInstance
  nat := Float32.ofNat
  sqrt := Float32.sqrt
  sin := Float32.sin
  cos := Float32.cos
  trunc a := if a < 0 then a.ceil else a.floor
  pi := 3.141592653589793

instance : Narrowing Float Float32 where
  narrow := Float.toFloat32
  widen := Float32.toFloat

end GraphViewer

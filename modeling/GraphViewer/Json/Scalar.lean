import GraphViewer.Json.Token
/-
What a written string or number stands for.
-/

namespace GraphViewer.Json

/-! ## Strings -/

/-- The flaw of a string that does not end at a closing quote. -/
def StringEnd.flaw? : StringEnd → Option Flaw
  | .closed => none
  | .cut => some .cutString
  | .control => some .controlCharacter
  | .badEscape | .badUnit => some .badEscape

/-- What is wrong after the first half of a surrogate pair when no second one follows. -/
def StringEnd.afterHalf : StringEnd → Flaw
  | .cut => .cutString
  | .badUnit => .badEscape
  | _ => .brokenPair

def isFirstHalf (u : Nat) : Bool :=
  0xd800 ≤ u && u ≤ 0xdbff

def isSecondHalf (u : Nat) : Bool :=
  0xdc00 ≤ u && u ≤ 0xdfff

/-- The character of a surrogate pair. -/
def pairChar (u v : Nat) : Char :=
  Char.ofNat ((u - 0xd800) * 0x400 + (v - 0xdc00) + 0x10000)

/-- The characters of a string. Units in the surrogate range count only as pairs. -/
def piecesChars (finish : StringEnd) : List Piece → Except Flaw (List Char)
  | [] =>
    match finish.flaw? with
    | none => .ok []
    | some flaw => .error flaw
  | .char c :: rest => do return c :: (← piecesChars finish rest)
  | .unit u :: rest =>
    if isSecondHalf u then .error .lonePart
    else if isFirstHalf u then
      match rest with
      | .unit v :: rest =>
        if isSecondHalf v then do return pairChar u v :: (← piecesChars finish rest)
        else .error .lonePart
      | .char _ :: _ => .error .brokenPair
      | [] => .error finish.afterHalf
    else do return Char.ofNat u :: (← piecesChars finish rest)

def Quoted.text (q : Quoted) : Except Flaw String := do
  return String.ofList (← piecesChars q.finish q.pieces)

/-- A string whose text is of no interest: its escapes are not paired. -/
def Quoted.skip (q : Quoted) : Except Flaw Unit :=
  match q.finish.flaw? with
  | none => .ok ()
  | some flaw => .error flaw

/-! ## Numbers -/

/-- The digits taken into a significand of at most 64 bits, as long as it does not overflow: the new
significand and the number of digits taken. -/
def gather (significand : Nat) : List Nat → Nat × Nat
  | [] => (significand, 0)
  | d :: rest =>
    if Nat.pow 2 64 ≤ significand * 10 + d then (significand, 0)
    else
      let (s, n) := gather (significand * 10 + d) rest
      (s, n + 1)

/-- A power of ten, as the nearest double. -/
def powerOfTen (n : Nat) : Float :=
  Float.ofScientific 1 false n

/-- `x / 10 ^ n`, by divisions that stay within the range of the doubles. -/
def scaleDown (x : Float) (n : Nat) : Float :=
  if n ≤ 308 then x / powerOfTen n
  else if x == 0 then x
  else scaleDown (x / powerOfTen 308) (n - 308)
termination_by n
decreasing_by omega

/-- `x * 10 ^ n`; nothing beyond the range of the doubles. -/
def scaleUp? (x : Float) (n : Nat) : Option Float :=
  if n ≤ 308 then
    let y := x * powerOfTen n
    if y.isInf then none else some y
  else if x == 0 then some x
  else none

/-- The double of a significand and a decimal exponent. Both steps round, so this is near the decimal, but
not always the nearest double. -/
def scaled? (negative : Bool) (significand : Nat) (exponent : Int) : Option Float :=
  let x := significand.toUInt64.toFloat
  let y? := if 0 ≤ exponent then scaleUp? x exponent.toNat else some (scaleDown x exponent.natAbs)
  y?.map fun y => if negative then -y else y

/-- The value of a list of digits. -/
def digitsValue (digits : List Nat) : Nat :=
  digits.foldl (fun n d => n * 10 + d) 0

/-- A number without fraction or exponent that fits its significand. Zero has a sign only as a double. -/
def wholeNumber (negative : Bool) (significand : Nat) : Number :=
  if !negative then .integer significand
  else if 1 ≤ significand ∧ significand ≤ Nat.pow 2 63 then .integer (-(significand : Int))
  else .double (-significand.toUInt64.toFloat)

/-- The number of a significand, the power of ten it is short of, and a written exponent. An exponent
beyond 32 bits is out of range upwards, and makes zero downwards. -/
def withWrittenExponent (negative : Bool) (significand : Nat) (short : Int) (down : Bool)
    (digits : List Nat) : Except Flaw Number :=
  let exponent := digitsValue digits
  if Nat.pow 2 31 ≤ exponent then
    if significand ≠ 0 && !down then .error .outOfRange
    else .ok (.double (if negative then -0.0 else 0.0))
  else
    match scaled? negative significand (if down then short - exponent else short + exponent) with
    | some x => .ok (.double x)
    | none => .error .outOfRange

/-- The value of a number as written. -/
def Numeral.number (n : Numeral) : Except Flaw Number :=
  match n.finish with
  | .cut => .error .cutNumber
  | .bad => .error .badNumber
  | .complete =>
    let (whole, taken) := gather 0 n.whole
    let left : Nat := n.whole.length - taken
    match n.fraction, n.exponent with
    | none, none =>
      if left = 0 then .ok (wholeNumber n.negative whole)
      else
        match scaled? n.negative whole left with
        | some x => .ok (.double x)
        | none => .error .outOfRange
    | none, some (down, digits) => withWrittenExponent n.negative whole left down digits
    | some places, exponent =>
      let (significand, taken) := gather whole places
      let (down, digits) := exponent.getD (false, [])
      withWrittenExponent n.negative significand ((left : Int) - taken) down digits

/-- A number whose value is of no interest: it may be out of range. -/
def Numeral.skip (n : Numeral) : Except Flaw Unit :=
  if n.finish = .complete then .ok () else .error .badNumber

/-- A number as a double. -/
def Number.toFloat : Number → Float
  | .integer i => Float.ofInt i
  | .double x => x

end GraphViewer.Json

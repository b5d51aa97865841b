import GraphViewer.Decimal.Shortest
/-
JSON values and their compact text. Integers of up to 64 bits stay integers, every other number is a
double. An object lists its members in increasing order of their keys.
-/

namespace GraphViewer.Json

inductive Number where
  | integer (value : Int)
  | double (value : Float)
  deriving DecidableEq, Repr

inductive Value where
  | null
  | bool (value : Bool)
  | number (value : Number)
  | string (value : String)
  | array (items : List Value)
  | object (members : List (String × Value))
  deriving Repr

abbrev Members := List (String × Value)

/-- The members with `key` set to `value`, in its place by the order of the keys. -/
def Members.insert (key : String) (value : Value) : Members → Members
  | [] => [(key, value)]
  | (k, v) :: rest =>
    if key < k then (key, value) :: (k, v) :: rest
    else if key = k then (key, value) :: rest
    else (k, v) :: Members.insert key value rest

/-- The value at a key. -/
def Members.get? (members : Members) (key : String) : Option Value :=
  (members.find? fun m => m.1 == key).map Prod.snd

def Value.string? : Value → Option String
  | .string s => some s
  | _ => none

/-! ## Text -/

/-- A lower-case hexadecimal digit. -/
def hexDigit (n : Nat) : Char :=
  if n < 10 then Char.ofNat (48 + n) else Char.ofNat (87 + n)

/-- A character inside a JSON string: only the quote, the backslash and the controls are escaped. -/
def escaped (c : Char) : List Char :=
  if c == '"' then ['\\', '"']
  else if c == '\\' then ['\\', '\\']
  else if c == '\n' then ['\\', 'n']
  else if c == '\r' then ['\\', 'r']
  else if c == '\t' then ['\\', 't']
  else if c.toNat == 8 then ['\\', 'b']
  else if c.toNat == 12 then ['\\', 'f']
  else if c.toNat < 0x20 then ['\\', 'u', '0', '0', hexDigit (c.toNat / 16), hexDigit (c.toNat % 16)]
  else [c]

/-- A string in double quotes. -/
def stringChars (s : String) : List Char :=
  '"' :: s.toList.flatMap escaped ++ ['"']

/-- Digits with a point after the first `whole` of them; zeros fill both sides up. -/
def placePoint (digits : List Char) (whole : Int) : List Char :=
  if whole ≤ 0 then '0' :: '.' :: List.replicate (-whole).toNat '0' ++ digits
  else if digits.length ≤ whole.toNat then
    digits ++ List.replicate (whole.toNat - digits.length) '0' ++ ['.', '0']
  else digits.take whole.toNat ++ '.' :: digits.drop whole.toNat

/-- Digits with a point after the first one, and a decimal exponent that always has a sign. -/
def withExponent (digits : List Char) (exponent : Int) : List Char :=
  let tail := match digits with
    | d :: [] => [d]
    | d :: rest => d :: '.' :: rest
    | [] => []
  let sign := if exponent < 0 then '-' else '+'
  tail ++ 'e' :: sign :: Nat.toDigits 10 exponent.natAbs

/-- A positive decimal number. The leading digit's exponent decides: from -5 to 15 the number is written
with a point in its place, and otherwise with an exponent. -/
def scaledChars (s : Decimal.Scaled) : List Char :=
  let digits := Nat.toDigits 10 s.digits
  let leading := s.exponent + digits.length - 1
  if -5 ≤ leading ∧ leading ≤ 15 then placePoint digits (leading + 1) else withExponent digits leading

/-- A finite double, with the fewest digits that read back as it. -/
def doubleChars (x : Float) : List Char :=
  let sign := if Decimal.isNegative x then ['-'] else []
  sign ++ (if x == 0 then ['0', '.', '0'] else scaledChars (Decimal.Binary.ofFloat x).shortest)

def Number.chars : Number → List Char
  | .integer i => (toString i).toList
  | .double x => doubleChars x

def Number.text (n : Number) : String :=
  String.ofList n.chars

mutual

/-- The value without any space between its parts. -/
def Value.chars : Value → List Char
  | .null => "null".toList
  | .bool true => "true".toList
  | .bool false => "false".toList
  | .number n => n.chars
  | .string s => stringChars s
  | .array items => '[' :: itemsChars items
  | .object members => '\x7b' :: membersChars members

/-- The items of an array and its closing bracket. -/
def itemsChars : List Value → List Char
  | [] => [']']
  | [v] => v.chars ++ [']']
  | v :: rest => v.chars ++ ',' :: itemsChars rest

/-- The members of an object and its closing brace. -/
def membersChars : List (String × Value) → List Char
  | [] => ['\x7d']
  | [(k, v)] => stringChars k ++ ':' :: v.chars ++ ['\x7d']
  | (k, v) :: rest => stringChars k ++ ':' :: v.chars ++ ',' :: membersChars rest

end

/-- The compact text of a value. -/
def Value.text (v : Value) : String :=
  String.ofList v.chars

end GraphViewer.Json

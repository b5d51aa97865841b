/-
Percent encoding of a text inside a path segment, over its UTF-8 bytes, and the decoder beside it.
-/

namespace GraphViewer.Text

/-- The UTF-8 bytes of a text. -/
def utf8 (s : String) : List UInt8 :=
  s.toList.flatMap String.utf8EncodeChar

/-- Bytes that stand for themselves: letters, digits, `-`, `.`, `_` and `~`. -/
def isUnreserved (b : UInt8) : Bool :=
  let c := Char.ofNat b.toNat
  b < 0x80 && (c.isAlphanum || c == '-' || c == '.' || c == '_' || c == '~')

/-- An upper-case hexadecimal digit. -/
def upperHexDigit (n : Nat) : Char :=
  if n < 10 then Char.ofNat (48 + n) else Char.ofNat (55 + n)

def percentByte (b : UInt8) : List Char :=
  if isUnreserved b then [Char.ofNat b.toNat]
  else ['%', upperHexDigit (b.toNat / 16), upperHexDigit (b.toNat % 16)]

/-- The text with every byte that is not unreserved written as `%` and two digits. -/
def percentEncode (s : String) : String :=
  String.ofList ((utf8 s).flatMap percentByte)

/-- The value of an upper-case hexadecimal digit. -/
def upperHexValue? (c : Char) : Option Nat :=
  if '0' ≤ c && c ≤ '9' then some (c.toNat - 48)
  else if 'A' ≤ c && c ≤ 'F' then some (c.toNat - 55)
  else none

/-- The bytes that an encoded text stands for; nothing where an escape is cut off or misspelt. -/
def percentBytes? : List Char → Option (List UInt8)
  | [] => some []
  | '%' :: a :: b :: rest => do
    let high ← upperHexValue? a
    let low ← upperHexValue? b
    let tail ← percentBytes? rest
    return UInt8.ofNat (16 * high + low) :: tail
  | c :: rest =>
    if c == '%' then none
    else (percentBytes? rest).map (String.utf8EncodeChar c ++ ·)

/-- The text that an encoded text stands for, if its bytes are UTF-8. -/
def percentDecode? (s : String) : Option String := do
  let bytes ← percentBytes? s.toList
  String.fromUTF8? ⟨bytes.toArray⟩

end GraphViewer.Text

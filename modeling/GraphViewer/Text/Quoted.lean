import GraphViewer.Text.Lowercase
import GraphViewer.Text.PrintTable
/-
A text as a message shows it: between double quotes, with escapes for the quote, the backslash, the
common controls, and every character that would not be seen as itself.
-/

namespace GraphViewer.Text

/-- Shown as itself inside quotes, apart from the characters with an escape of their own. -/
def isShown (c : Char) : Bool :=
  if c.toNat < 0x80 then 0x20 ≤ c.toNat && c.toNat < 0x7f
  else !inRanges extendingMarkRanges c.toNat && !inRanges fillerRanges c.toNat &&
    !inRanges unprintableRanges c.toNat

/-- A character inside quotes. -/
def quotedChar (c : Char) : List Char :=
  if c == '"' then ['\\', '"']
  else if c == '\\' then ['\\', '\\']
  else if c == '\t' then ['\\', 't']
  else if c == '\n' then ['\\', 'n']
  else if c == '\r' then ['\\', 'r']
  else if c.toNat == 0 then ['\\', '0']
  else if isShown c then [c]
  else ['\\', 'u', '\x7b'] ++ Nat.toDigits 16 c.toNat ++ ['\x7d']

/-- The text between double quotes, with escapes. -/
def quoted (s : String) : String :=
  String.ofList ('"' :: s.toList.flatMap quotedChar ++ ['"'])

end GraphViewer.Text

import GraphViewer.Graph.Groups
import GraphViewer.Config
import GraphViewer.Text.Percent
/-
Colours. Every entity type has one of ten, by a hash of its name; out of focus it is a shade of gray that
depends on how bright the colour is and on the theme.
-/

namespace GraphViewer

def palette : List String :=
  ["#1f77b4", "#ff7f0e", "#2ca02c", "#d62728", "#9467bd", "#8c564b", "#e377c2", "#7f7f7f", "#bcbd22",
    "#17becf"]

/-- A 64-bit hash of some bytes: each byte is added without carry, and the sum is multiplied. -/
def fnv1a (bytes : List UInt8) : UInt64 :=
  bytes.foldl (fun hash b => (hash ^^^ b.toUInt64) * 0x100000001b3) 0xcbf29ce484222325

/-- The colour of an entity type. -/
def EntityKey.colour (key : EntityKey) : String :=
  palette[(fnv1a (Text.utf8 (key.getD ""))).toNat % palette.length]?.getD ""

/-- The value of a hexadecimal digit of either case. -/
def hexDigit? (b : UInt8) : Option Nat :=
  let n := b.toNat
  if 48 ≤ n ∧ n ≤ 57 then some (n - 48)
  else if 97 ≤ n ∧ n ≤ 102 then some (n - 87)
  else if 65 ≤ n ∧ n ≤ 70 then some (n - 55)
  else none

/-- A channel of a colour: two hexadecimal digits, or a plus sign and one. -/
def channel? (a b : UInt8) : Option Nat :=
  if a = 43 then hexDigit? b
  else do
    let high ← hexDigit? a
    let low ← hexDigit? b
    return 16 * high + low

/-- A byte inside a character of several bytes, other than its first. -/
def continuesCharacter (b : UInt8) : Bool :=
  0x80 ≤ b && b < 0xc0

/-- What a text says about red, green and blue. -/
inductive ColourReading where
  | channels (red green blue : Nat)
  | noColour
  /-- Six bytes whose channels would cut a character in two. -/
  | cutsCharacter
  deriving DecidableEq, Repr

/-- Reads six bytes as three channels. A channel is looked at only if those before it are in order. -/
def ColourReading.ofBytes (a b c d e f : UInt8) : ColourReading :=
  if continuesCharacter c then .cutsCharacter
  else match channel? a b with
    | none => .noColour
    | some red =>
      if continuesCharacter e then .cutsCharacter
      else match channel? c d, channel? e f with
        | some green, some blue => .channels red green blue
        | _, _ => .noColour

/-- A colour is a hash sign and six bytes for its channels. -/
def ColourReading.ofText (s : String) : ColourReading :=
  match Text.utf8 s with
  | [35, a, b, c, d, e, f] => ofBytes a b c d e f
  | _ => .noColour

/-- The share of full brightness that a theme gives to a colour out of focus. -/
def Theme.fading : Theme → Float
  | .light => 1.6
  | .dark => 0.7

/-- The shade of gray, from 0 to 255, of a colour out of focus. -/
def grayOf (red green blue : Nat) (theme : Theme) : UInt8 :=
  let luma := (0.3 * red.toFloat + 0.59 * green.toFloat + 0.11 * blue.toFloat) / 255.0
  let lightness := luma * theme.fading
  let lightness := if lightness < 0.0 then 0.0 else if 1.0 < lightness then 1.0 else lightness
  (lightness * 255.0).round.toUInt8

/-- The text of a shade of gray. -/
def grayText (v : UInt8) : String :=
  "rgb(" ++ toString v.toNat ++ ", " ++ toString v.toNat ++ ", " ++ toString v.toNat ++ ")"

/-- A colour as it looks out of focus. What is no colour stays as it is; nothing comes of a text in which
a character would be cut in two. -/
def mutedColour? (text : String) (theme : Theme) : Option String :=
  match ColourReading.ofText text with
  | .channels red green blue => some (grayText (grayOf red green blue theme))
  | .noColour => some text
  | .cutsCharacter => none

end GraphViewer

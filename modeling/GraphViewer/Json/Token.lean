import GraphViewer.Json.Fault
/-
The tokens of a JSON text. Reading tokens never fails: a literal, number or string that is cut off or
misspelt is a token too, and says what is wrong with it. What follows such a token does not matter.
-/

namespace GraphViewer.Json

/-! ## Strings -/

/-- A part of a string: a character, or a UTF-16 unit given by a `\u` escape. -/
inductive Piece where
  | char (c : Char)
  | unit (u : Nat)
  deriving DecidableEq, Repr

/-- A string as written: its parts in order, and what stops it before its closing quote, if anything.
`badUnit` tells a `\u` escape without four digits from other escapes that do not exist. -/
inductive StringEnd where
  | closed
  | cut
  | control
  | badEscape
  | badUnit
  deriving DecidableEq, Repr

structure Quoted where
  pieces : List Piece
  finish : StringEnd
  deriving DecidableEq, Repr

/-- The character of a short escape. -/
def shortEscape? (c : Char) : Option Char :=
  if c == '"' then some '"'
  else if c == '\\' then some '\\'
  else if c == '/' then some '/'
  else if c == 'b' then some (Char.ofNat 8)
  else if c == 'f' then some (Char.ofNat 12)
  else if c == 'n' then some '\n'
  else if c == 'r' then some '\r'
  else if c == 't' then some '\t'
  else none

/-- The value of a hexadecimal digit of either case. -/
def hexValue? (c : Char) : Option Nat :=
  if '0' ≤ c && c ≤ '9' then some (c.toNat - 48)
  else if 'a' ≤ c && c ≤ 'f' then some (c.toNat - 87)
  else if 'A' ≤ c && c ≤ 'F' then some (c.toNat - 55)
  else none

/-- The unit of four hexadecimal digits. -/
def unitOf? (a b c d : Char) : Option Nat := do
  let a ← hexValue? a
  let b ← hexValue? b
  let c ← hexValue? c
  let d ← hexValue? d
  return ((a * 16 + b) * 16 + c) * 16 + d

/-- Four bytes are asked for after `\u`: with fewer left the string is cut off, whatever they are. -/
def shortOfFourBytes (cs : List Char) : Bool :=
  (String.ofList cs).utf8ByteSize < 4

def Quoted.cons (p : Piece) (q : Quoted) : Quoted :=
  ⟨p :: q.pieces, q.finish⟩

/-- The string after an opening quote, and the text after its closing quote. -/
def scanString : List Char → Quoted × List Char
  | [] => (⟨[], .cut⟩, [])
  | '"' :: rest => (⟨[], .closed⟩, rest)
  | '\\' :: [] => (⟨[], .cut⟩, [])
  | '\\' :: 'u' :: rest =>
    match rest with
    | a :: b :: c :: d :: rest =>
      match unitOf? a b c d with
      | some u =>
        let (q, after) := scanString rest
        (q.cons (.unit u), after)
      | none => (⟨[], .badUnit⟩, [])
    | few => (⟨[], if shortOfFourBytes few then .cut else .badUnit⟩, [])
  | '\\' :: c :: rest =>
    match shortEscape? c with
    | some e =>
      let (q, after) := scanString rest
      (q.cons (.char e), after)
    | none => (⟨[], .badEscape⟩, [])
  | c :: rest =>
    if c.toNat < 0x20 then (⟨[], .control⟩, [])
    else
      let (q, after) := scanString rest
      (q.cons (.char c), after)

theorem scanString_length_le (cs : List Char) : (scanString cs).2.length ≤ cs.length := by
  fun_induction scanString cs <;> simp_all <;> omega

/-! ## Numbers -/

/-- Whether a number ends as it should, or the text ends or goes on otherwise where a digit is due. -/
inductive NumeralEnd where
  | complete
  | cut
  | bad
  deriving DecidableEq, Repr

/-- A number as written. -/
structure Numeral where
  negative : Bool
  whole : List Nat
  fraction : Option (List Nat)
  exponent : Option (Bool × List Nat)
  finish : NumeralEnd
  deriving DecidableEq, Repr

def digit? (c : Char) : Option Nat :=
  if '0' ≤ c && c ≤ '9' then some (c.toNat - 48) else none

/-- The digits that a text begins with, and the rest. -/
def scanDigits : List Char → List Nat × List Char
  | [] => ([], [])
  | c :: rest =>
    match digit? c with
    | some d =>
      let (ds, after) := scanDigits rest
      (d :: ds, after)
    | none => ([], c :: rest)

theorem scanDigits_length (cs : List Char) :
    (scanDigits cs).1.length + (scanDigits cs).2.length = cs.length := by
  fun_induction scanDigits cs with
  | case1 => rfl
  | case2 c rest d digit ds after found ih =>
    rw [found] at ih
    simp only [List.length_cons] at ih ⊢
    omega
  | case3 c rest noDigit => simp

/-- The end of a number where a digit is due and the text goes on with `rest`. -/
def dueDigit (rest : List Char) : NumeralEnd :=
  if rest.isEmpty then .cut else .bad

/-- The sign of an exponent, negative or not, and the text after it. -/
def scanSign : List Char → Bool × List Char
  | '+' :: rest => (false, rest)
  | '-' :: rest => (true, rest)
  | rest => (false, rest)

/-- The exponent of a number, if one follows. -/
def scanExponent (n : Numeral) : List Char → Numeral × List Char
  | [] => (n, [])
  | c :: rest =>
    if c == 'e' || c == 'E' then
      match scanDigits (scanSign rest).2 with
      | ([], after) => (⟨n.negative, n.whole, n.fraction, none, dueDigit after⟩, after)
      | (ds, after) =>
        (⟨n.negative, n.whole, n.fraction, some ((scanSign rest).1, ds), .complete⟩, after)
    else (n, c :: rest)

/-- The fraction and the exponent of a number, as far as they follow. -/
def scanFraction (n : Numeral) : List Char → Numeral × List Char
  | '.' :: rest =>
    match scanDigits rest with
    | ([], rest) => (⟨n.negative, n.whole, none, none, dueDigit rest⟩, rest)
    | (ds, rest) => scanExponent ⟨n.negative, n.whole, some ds, none, .complete⟩ rest
  | cs => scanExponent n cs

/-- A number after its sign. A leading zero stands alone. -/
def scanNumeral (negative : Bool) (cs : List Char) : Numeral × List Char :=
  match scanDigits cs with
  | ([], rest) => (⟨negative, [], none, none, dueDigit rest⟩, rest)
  | (0 :: _ :: _, rest) => (⟨negative, [], none, none, .bad⟩, rest)
  | (ds, rest) => scanFraction ⟨negative, ds, none, none, .complete⟩ rest

/-! ## Tokens -/

inductive Token where
  | openArray
  | closeArray
  | openObject
  | closeObject
  | comma
  | colon
  | null
  | bool (value : Bool)
  | number (numeral : Numeral)
  | string (quoted : Quoted)
  | broken (flaw : Flaw)
  deriving DecidableEq, Repr

/-- Space between tokens. -/
def isSpace (c : Char) : Bool :=
  c == ' ' || c == '\t' || c == '\n' || c == '\r'

/-- A literal after its first letter: the token and the rest, or the flaw. -/
def scanLiteral (token : Token) : List Char → List Char → Token × List Char
  | [], rest => (token, rest)
  | _ :: _, [] => (.broken .cutLiteral, [])
  | e :: es, c :: rest => if c == e then scanLiteral token es rest else (.broken .misspelt, [])

/-- The token that is one character. -/
def punctuation? (c : Char) : Option Token :=
  if c == '[' then some .openArray
  else if c == ']' then some .closeArray
  else if c == '\x7b' then some .openObject
  else if c == '\x7d' then some .closeObject
  else if c == ',' then some .comma
  else if c == ':' then some .colon
  else none

/-- The token that begins with a character, and the text after it. -/
def scanToken (c : Char) (rest : List Char) : Token × List Char :=
  match punctuation? c with
  | some t => (t, rest)
  | none =>
    if c == '"' then (.string (scanString rest).1, (scanString rest).2)
    else if c == '-' then (.number (scanNumeral true rest).1, (scanNumeral true rest).2)
    else if (digit? c).isSome then
      (.number (scanNumeral false (c :: rest)).1, (scanNumeral false (c :: rest)).2)
    else if c == 'n' then scanLiteral .null ['u', 'l', 'l'] rest
    else if c == 't' then scanLiteral (.bool true) ['r', 'u', 'e'] rest
    else if c == 'f' then scanLiteral (.bool false) ['a', 'l', 's', 'e'] rest
    else (.broken .noValue, [])

theorem scanSign_length_le (cs : List Char) : (scanSign cs).2.length ≤ cs.length := by
  unfold scanSign
  split <;> simp

theorem scanDigits_length_le (cs : List Char) : (scanDigits cs).2.length ≤ cs.length := by
  have := scanDigits_length cs
  omega

theorem scanExponent_length_le (n : Numeral) (cs : List Char) :
    (scanExponent n cs).2.length ≤ cs.length := by
  cases cs with
  | nil => simp [scanExponent]
  | cons c rest =>
    have digits := scanDigits_length_le (scanSign rest).2
    have sign := scanSign_length_le rest
    simp only [scanExponent]
    split
    · split <;> rename_i equal <;> rw [equal] at digits <;> simp at digits ⊢ <;> omega
    · exact Nat.le_refl _

theorem scanFraction_length_le (n : Numeral) (cs : List Char) :
    (scanFraction n cs).2.length ≤ cs.length := by
  unfold scanFraction
  split
  · rename_i rest
    have digits := scanDigits_length rest
    split <;> rename_i equal <;> rw [equal] at digits <;> simp at digits ⊢
    · omega
    · exact Nat.le_trans (scanExponent_length_le _ _) (by omega)
  · exact scanExponent_length_le _ _

theorem scanNumeral_length (negative : Bool) (cs : List Char) :
    (scanNumeral negative cs).2.length + min 1 (scanDigits cs).1.length ≤ cs.length := by
  have digits := scanDigits_length cs
  unfold scanNumeral
  split <;> rename_i equal <;> rw [equal] at digits ⊢ <;> simp at digits ⊢
  · omega
  · omega
  · rename_i ds rest notNil _
    have := scanFraction_length_le ⟨negative, ds, none, none, .complete⟩ rest
    have : ds.length ≠ 0 := by simpa using notNil
    omega

theorem scanLiteral_length_le (t : Token) (letters cs : List Char) :
    (scanLiteral t letters cs).2.length ≤ cs.length := by
  fun_induction scanLiteral t letters cs with
  | case1 rest => exact Nat.le_refl _
  | case2 e es => exact Nat.le_refl _
  | case3 e es c rest same ih => exact Nat.le_succ_of_le ih
  | case4 e es c rest other => exact Nat.zero_le _

theorem scanToken_length_le (c : Char) (rest : List Char) :
    (scanToken c rest).2.length ≤ rest.length := by
  unfold scanToken
  split
  · exact Nat.le_refl _
  · split
    · exact scanString_length_le rest
    · split
      · have := scanNumeral_length true rest
        simp only
        omega
      · split
        · rename_i isDigit
          obtain ⟨d, isDigit⟩ := Option.isSome_iff_exists.mp isDigit
          have := scanNumeral_length false (c :: rest)
          simp only [scanDigits, isDigit, List.length_cons] at this ⊢
          omega
        · split
          · exact scanLiteral_length_le _ _ _
          · split
            · exact scanLiteral_length_le _ _ _
            · split
              · exact scanLiteral_length_le _ _ _
              · exact Nat.zero_le _

/-- The tokens of a text. -/
def tokens : List Char → List Token
  | [] => []
  | c :: rest =>
    if isSpace c then tokens rest
    else (scanToken c rest).1 :: tokens (scanToken c rest).2
termination_by cs => cs.length
decreasing_by
  · simp
  · exact Nat.lt_succ_of_le (scanToken_length_le c rest)

end GraphViewer.Json

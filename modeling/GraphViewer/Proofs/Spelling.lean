import Mathlib.Data.List.Chain
import GraphViewer.Json.Token
/-
How tokens are spelt. The grammar of literals, numbers and strings is said apart from how they are scanned,
and so is that of a whole text: tokens with space between them. The tokens of a text come out as they were
spelt, if no number stands right after a number.
-/

namespace GraphViewer.Json

/-! ## Numbers -/

/-- At least one digit. -/
inductive Digits : List Nat → List Char → Prop
  | one {c : Char} {d : Nat} (digit : digit? c = some d) : Digits [d] [c]
  | more {c : Char} {d : Nat} {ds : List Nat} {cs : List Char} (digit : digit? c = some d) :
      Digits ds cs → Digits (d :: ds) (c :: cs)

/-- The whole part of a number: a leading zero stands alone. -/
inductive Whole : List Nat → List Char → Prop
  | zero : Whole [0] ['0']
  | digits {ds : List Nat} {cs : List Char} : Digits ds cs → ds.head? ≠ some 0 → Whole ds cs

inductive Fraction : Option (List Nat) → List Char → Prop
  | absent : Fraction none []
  | places {ds : List Nat} {cs : List Char} : Digits ds cs → Fraction (some ds) ('.' :: cs)

/-- The sign of an exponent. -/
inductive Sign : Bool → List Char → Prop
  | absent : Sign false []
  | plus : Sign false ['+']
  | minus : Sign true ['-']

inductive Exponent : Option (Bool × List Nat) → List Char → Prop
  | absent : Exponent none []
  | power {mark : Char} {down : Bool} {ds : List Nat} {sign cs : List Char} (marked : mark ∈ ['e', 'E']) :
      Sign down sign → Digits ds cs → Exponent (some (down, ds)) (mark :: (sign ++ cs))

/-- A number after its sign. -/
inductive Numeral.Unsigned (negative : Bool) : Numeral → List Char → Prop
  | mk {ds : List Nat} {fraction : Option (List Nat)} {exponent : Option (Bool × List Nat)}
      {whole places power : List Char} :
      Whole ds whole → Fraction fraction places → Exponent exponent power →
      Unsigned negative ⟨negative, ds, fraction, exponent, .complete⟩ (whole ++ (places ++ power))

inductive Numeral.Spelt : Numeral → List Char → Prop
  | plain {n : Numeral} {cs : List Char} : Unsigned false n cs → Spelt n cs
  | minus {n : Numeral} {cs : List Char} : Unsigned true n cs → Spelt n ('-' :: cs)

/-- A text does not go on with a number that ends before it. -/
def Apart (rest : List Char) : Prop :=
  ∀ c ∈ rest.head?, digit? c = none ∧ c ∉ ['.', 'e', 'E']

variable {ds : List Nat} {cs rest : List Char} {n : Numeral} {negative : Bool}
  {fraction : Option (List Nat)} {exponent : Option (Bool × List Nat)}

theorem scanDigits_of_noDigit (ends : ∀ c ∈ rest.head?, digit? c = none) : scanDigits rest = ([], rest) := by
  cases rest with
  | nil => rfl
  | cons c rest => simp [scanDigits, ends c rfl]

theorem Digits.scan (spelt : Digits ds cs) (ends : ∀ c ∈ rest.head?, digit? c = none) :
    scanDigits (cs ++ rest) = (ds, rest) := by
  induction spelt with
  | one digit => simp [scanDigits, digit, scanDigits_of_noDigit ends]
  | more digit _ ih => simp [scanDigits, digit, ih]

theorem Digits.ne_nil (spelt : Digits ds cs) : ds ≠ [] := by
  cases spelt <;> simp

theorem Digits.head (spelt : Digits ds cs) : ∃ c later, cs = c :: later ∧ (digit? c).isSome = true := by
  cases spelt with
  | one digit => exact ⟨_, _, rfl, by simp [digit]⟩
  | more digit => exact ⟨_, _, rfl, by simp [digit]⟩

theorem Sign.scan {down : Bool} {sign : List Char} (spelt : Sign down sign) (digits : Digits ds cs) :
    scanSign (sign ++ (cs ++ rest)) = (down, cs ++ rest) := by
  cases spelt with
  | absent =>
    obtain ⟨c, later, rfl, digit⟩ := digits.head
    unfold scanSign
    split
    · rename_i equal
      cases equal
      simp [digit?] at digit
    · rename_i equal
      cases equal
      simp [digit?] at digit
    · rfl
  | plus => rfl
  | minus => rfl

theorem Exponent.scan (spelt : Exponent exponent cs) (apart : Apart rest) :
    scanExponent ⟨negative, ds, fraction, none, .complete⟩ (cs ++ rest) =
      (⟨negative, ds, fraction, exponent, .complete⟩, rest) := by
  cases spelt with
  | absent =>
    cases rest with
    | nil => rfl
    | cons c rest =>
      have other := (apart c rfl).2
      simp only [List.mem_cons, not_or] at other
      simp [scanExponent, other]
  | @power mark down power sign cs marked signed digits =>
    have scanned := digits.scan fun c first => (apart c first).1
    -- with this the scan does not stop for want of digits
    have filled := digits.ne_nil
    have marked : (mark == 'e' || mark == 'E') = true := by
      simpa using marked
    rw [List.cons_append, List.append_assoc]
    simp only [scanExponent, marked, if_true, signed.scan digits, scanned]

theorem Exponent.noDigit (spelt : Exponent exponent cs) (apart : Apart rest) :
    ∀ c ∈ (cs ++ rest).head?, digit? c = none ∧ c ≠ '.' := by
  cases spelt with
  | absent =>
    intro c first
    have other := (apart c first).2
    simp only [List.mem_cons, not_or] at other
    exact ⟨(apart c first).1, other.1⟩
  | power marked =>
    rintro c ⟨⟩
    simp only [List.mem_cons, List.not_mem_nil, or_false] at marked
    rcases marked with rfl | rfl <;> decide

theorem Fraction.scan {power : List Char} (spelt : Fraction fraction cs) (follows : Exponent exponent power)
    (apart : Apart rest) :
    scanFraction ⟨negative, ds, none, none, .complete⟩ (cs ++ (power ++ rest)) =
      (⟨negative, ds, fraction, exponent, .complete⟩, rest) := by
  cases spelt with
  | absent =>
    rw [List.nil_append, ← follows.scan apart]
    unfold scanFraction
    split
    · rename_i equal
      exact absurd rfl (follows.noDigit apart '.' (by simp [equal])).2
    · rfl
  | places digits =>
    have scanned := digits.scan fun c first => (follows.noDigit apart c first).1
    have filled := digits.ne_nil
    simp only [List.cons_append, scanFraction, scanned]
    exact follows.scan apart

theorem Fraction.noDigit {power : List Char} (spelt : Fraction fraction cs) (follows : Exponent exponent power)
    (apart : Apart rest) : ∀ c ∈ (cs ++ (power ++ rest)).head?, digit? c = none := by
  cases spelt with
  | absent => exact fun c first => (follows.noDigit apart c first).1
  | places =>
    rintro c ⟨⟩
    decide

theorem Whole.scan (spelt : Whole ds cs) (ends : ∀ c ∈ rest.head?, digit? c = none) :
    scanNumeral negative (cs ++ rest) = scanFraction ⟨negative, ds, none, none, .complete⟩ rest := by
  have ⟨scanned, filled, single⟩ :
      scanDigits (cs ++ rest) = (ds, rest) ∧ ds ≠ [] ∧ ∀ d later, ds ≠ 0 :: d :: later := by
    cases spelt with
    | zero => exact ⟨(Digits.one (c := '0') rfl).scan ends, by simp, by simp⟩
    | digits digits leading =>
      refine ⟨digits.scan ends, digits.ne_nil, fun d later equal => ?_⟩
      simp [equal] at leading
  unfold scanNumeral
  rw [scanned]
  split
  · rename_i equal
    cases equal
    exact absurd rfl filled
  · rename_i equal
    cases equal
    exact absurd rfl (single _ _)
  · rename_i equal
    cases equal
    rfl

theorem Numeral.Unsigned.scan (spelt : n.Unsigned negative cs) (apart : Apart rest) :
    scanNumeral negative (cs ++ rest) = (n, rest) := by
  obtain ⟨whole, fraction, exponent⟩ := spelt
  simp only [List.append_assoc]
  rw [whole.scan (fraction.noDigit exponent apart), fraction.scan exponent apart]

theorem Numeral.Unsigned.head (spelt : n.Unsigned negative cs) :
    ∃ c later, cs = c :: later ∧ (digit? c).isSome = true := by
  obtain ⟨whole, _, _⟩ := spelt
  cases whole with
  | zero => exact ⟨_, _, rfl, rfl⟩
  | digits digits =>
    obtain ⟨c, later, rfl, digit⟩ := digits.head
    exact ⟨c, _, rfl, digit⟩

/-! ## Strings -/

/-- A character that a string may hold as it is. -/
def plainChar (c : Char) : Prop :=
  0x20 ≤ c.toNat ∧ c ≠ '"' ∧ c ≠ '\\'

/-- The parts of a string, up to its closing quote. -/
inductive Pieces : List Piece → List Char → Prop
  | close : Pieces [] ['"']
  | plain {c : Char} {ps : List Piece} {cs : List Char} (plain : plainChar c) :
      Pieces ps cs → Pieces (.char c :: ps) (c :: cs)
  | escape {c e : Char} {ps : List Piece} {cs : List Char} (short : shortEscape? e = some c) :
      Pieces ps cs → Pieces (.char c :: ps) ('\\' :: e :: cs)
  | unit {h i j k : Char} {u : Nat} {ps : List Piece} {cs : List Char} (four : unitOf? h i j k = some u) :
      Pieces ps cs → Pieces (.unit u :: ps) ('\\' :: 'u' :: h :: i :: j :: k :: cs)

theorem Pieces.scan {ps : List Piece} (spelt : Pieces ps cs) :
    scanString (cs ++ rest) = (⟨ps, .closed⟩, rest) := by
  induction spelt with
  | close => rfl
  | plain plain _ ih =>
    obtain ⟨low, quote, slash⟩ := plain
    simp [scanString, slash, Nat.not_lt.2 low, ih, Quoted.cons]
  | @escape c e _ _ short _ ih =>
    -- no short escape is a `u`, so this is not taken for a unit
    have other : e ≠ 'u' := by
      rintro rfl
      simp [shortEscape?] at short
    simp [scanString, short, ih, Quoted.cons]
  | unit four _ ih => simp [scanString, four, ih, Quoted.cons]

instance (c : Char) : Decidable (plainChar c) :=
  inferInstanceAs (Decidable (_ ∧ _))

/-- A string without escapes. -/
def Quoted.plain (s : String) : Quoted :=
  ⟨s.toList.map .char, .closed⟩

theorem Pieces.of_plain (plain : ∀ c ∈ cs, plainChar c) : Pieces (cs.map .char) (cs ++ ['"']) := by
  induction cs with
  | nil => exact .close
  | cons c cs ih =>
    exact .plain (plain c List.mem_cons_self) (ih fun d among => plain d (List.mem_cons_of_mem _ among))

/-! ## Tokens -/

inductive Token.Spelt : Token → List Char → Prop
  | mark {t : Token} {c : Char} (mark : punctuation? c = some t) : Spelt t [c]
  | null : Spelt .null ['n', 'u', 'l', 'l']
  | yes : Spelt (.bool true) ['t', 'r', 'u', 'e']
  | no : Spelt (.bool false) ['f', 'a', 'l', 's', 'e']
  | number {n : Numeral} {cs : List Char} : n.Spelt cs → Spelt (.number n) cs
  | string {ps : List Piece} {cs : List Char} : Pieces ps cs → Spelt (.string ⟨ps, .closed⟩) ('"' :: cs)

/-- Tokens with space between them. -/
inductive Writes : List Token → List Char → Prop
  | done {gap : List Char} (space : ∀ c ∈ gap, isSpace c = true) : Writes [] gap
  | next {t : Token} {ts : List Token} {gap cs rest : List Char} (space : ∀ c ∈ gap, isSpace c = true) :
      t.Spelt cs → Writes ts rest → Writes (t :: ts) (gap ++ (cs ++ rest))

/-- No space is due before a token. -/
theorem Writes.tight {t : Token} {ts : List Token} (spelt : t.Spelt cs) (writes : Writes ts rest) :
    Writes (t :: ts) (cs ++ rest) := by
  have none : ∀ c ∈ ([] : List Char), isSpace c = true := by simp
  exact .next none spelt writes

theorem Token.Spelt.plain {s : String} (plain : ∀ c ∈ s.toList, plainChar c) :
    Token.Spelt (.string (.plain s)) ('"' :: (s.toList ++ ['"'])) :=
  .string (Pieces.of_plain plain)

namespace Token

def isNumber : Token → Bool
  | .number _ => true
  | _ => false

/-- A token that comes after a value. -/
def isMark : Token → Bool
  | .comma | .closeArray | .closeObject => true
  | _ => false

/-- A token may stand right before another. -/
def Before (t u : Token) : Prop :=
  t.isNumber = true → u.isMark = true

variable {t : Token}

theorem punctuation?_of_digit {c : Char} (digit : (digit? c).isSome = true) : punctuation? c = none := by
  have other {m : Char} (mark : digit? m = none) : c ≠ m := by
    rintro rfl
    simp [mark] at digit
  simp [punctuation?, other (m := '[') rfl, other (m := ']') rfl, other (m := '\x7b') rfl,
    other (m := '\x7d') rfl, other (m := ',') rfl, other (m := ':') rfl]

theorem of_space {c : Char} (space : isSpace c = true) :
    punctuation? c = none ∧ digit? c = none ∧ c ∉ ['.', 'e', 'E'] := by
  simp only [isSpace, Bool.or_eq_true, beq_iff_eq] at space
  rcases space with ((rfl | rfl) | rfl) | rfl <;> decide

theorem Spelt.scan (spelt : t.Spelt cs) (apart : t.isNumber = true → Apart rest) :
    ∃ c later, cs = c :: later ∧ isSpace c = false ∧ scanToken c (later ++ rest) = (t, rest) := by
  cases spelt with
  | @mark t c mark =>
    refine ⟨c, [], rfl, Bool.eq_false_iff.2 fun space => ?_, by simp [scanToken, mark]⟩
    simp [(of_space space).1] at mark
  | null => exact ⟨_, _, rfl, rfl, rfl⟩
  | yes => exact ⟨_, _, rfl, rfl, rfl⟩
  | no => exact ⟨_, _, rfl, rfl, rfl⟩
  | @number n _ spelt =>
    have apart := apart rfl
    cases spelt with
    | plain unsigned =>
      have scanned := unsigned.scan apart
      obtain ⟨c, later, rfl, digit⟩ := unsigned.head
      have noQuote : c ≠ '"' := by rintro rfl; cases digit
      have noMinus : c ≠ '-' := by rintro rfl; cases digit
      refine ⟨c, later, rfl, Bool.eq_false_iff.2 fun space => ?_, ?_⟩
      · simp [(of_space space).2.1] at digit
      · rw [List.cons_append] at scanned
        simp [scanToken, punctuation?_of_digit digit, noQuote, noMinus, digit, scanned]
    | minus unsigned =>
      refine ⟨_, _, rfl, rfl, ?_⟩
      simp [scanToken, punctuation?, unsigned.scan apart]
  | string pieces =>
    refine ⟨_, _, rfl, rfl, ?_⟩
    simp [scanToken, punctuation?, pieces.scan]

end Token

/-! ## Texts -/

variable {t u : Token} {ts : List Token}

theorem tokens_of_space {gap : List Char} (space : ∀ c ∈ gap, isSpace c = true) (rest : List Char) :
    tokens (gap ++ rest) = tokens rest := by
  induction gap with
  | nil => rfl
  | cons c gap ih =>
    rw [List.cons_append, tokens, if_pos (space c List.mem_cons_self)]
    exact ih fun d among => space d (List.mem_cons_of_mem _ among)

theorem Token.Spelt.apart (spelt : t.Spelt cs) (mark : t.isMark = true) : Apart (cs ++ rest) := by
  cases spelt with
  | @mark t c punctuation =>
    rintro d ⟨⟩
    refine ⟨?_, fun among => ?_⟩
    · by_contra digit
      simp [Token.punctuation?_of_digit (Option.isSome_iff_ne_none.2 digit)] at punctuation
    · simp only [List.mem_cons, List.not_mem_nil, or_false] at among
      rcases among with rfl | rfl | rfl <;> simp [punctuation?] at punctuation
  | _ => cases mark

theorem Writes.apart (writes : Writes ts cs) (mark : ∀ u ∈ ts.head?, u.isMark = true) : Apart cs := by
  have gap_apart {gap rest : List Char} (space : ∀ c ∈ gap, isSpace c = true) (apart : Apart rest) :
      Apart (gap ++ rest) := by
    cases gap with
    | nil => exact apart
    | cons c gap =>
      rintro d ⟨⟩
      exact (Token.of_space (space c List.mem_cons_self)).2
  cases writes with
  | done space =>
    rw [← List.append_nil cs]
    exact gap_apart space fun c first => nomatch first
  | next space spelt _ => exact gap_apart space (spelt.apart (mark _ rfl))

/-- The tokens of a text are those that it spells: a number ends where it was meant to, because no number and
no other value stands right after it. -/
theorem Writes.tokens_eq (writes : Writes ts cs) (chain : ts.IsChain Token.Before) : tokens cs = ts := by
  induction writes with
  | @done gap space => rw [← List.append_nil gap, tokens_of_space space, tokens]
  | @next t ts gap cs rest space spelt writes ih =>
    have chain := List.isChain_cons.1 chain
    have apart : t.isNumber = true → Apart rest := fun number =>
      writes.apart fun u first => chain.1 u first number
    obtain ⟨c, later, rfl, solid, scanned⟩ := spelt.scan apart
    rw [tokens_of_space space, List.cons_append, tokens, if_neg (by simp [solid]), scanned, ih chain.2]

end GraphViewer.Json

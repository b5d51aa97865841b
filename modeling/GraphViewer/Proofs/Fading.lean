import Mathlib.Tactic.IntervalCases
import GraphViewer.Paint.Colour
import GraphViewer.Proofs.ByteOrder
/-
What becomes of a colour out of focus. Six hexadecimal digits after a hash sign come out in gray, and a text that is
no colour stays as it is. But a channel may also be a plus sign and one digit; and since channels are cut out of the
bytes two by two, nothing comes of a text in which a character spans two of them.
-/

namespace GraphViewer

/-! ## Where characters end -/

namespace Text

theorem continuesCharacter_iff {b : UInt8} :
    continuesCharacter b = true ↔ 0x80 ≤ b.toNat ∧ b.toNat < 0xc0 := by
  rw [continuesCharacter, Bool.and_eq_true, decide_eq_true_eq, decide_eq_true_eq, UInt8.le_iff_toNat_le,
    UInt8.lt_iff_toNat_lt]
  rfl

theorem toNat_byte {n : Nat} (byte : n < 256) : (UInt8.ofNat n).toNat = n := by
  rw [UInt8.toNat_ofNat', Nat.mod_eq_of_lt byte]

/-- A character is one byte, or a byte that begins it and some that lie inside it. -/
theorem encodeChar_cases (c : Char) :
    (c.toNat < 0x80 ∧ String.utf8EncodeChar c = [UInt8.ofNat c.toNat]) ∨
      ∃ first inside, String.utf8EncodeChar c = first :: inside ∧ 0xc0 ≤ first.toNat ∧
        ∀ b ∈ inside, continuesCharacter b = true := by
  have begins {n : Nat} (least : 0xc0 ≤ n) (byte : n < 256) : 0xc0 ≤ (UInt8.ofNat n).toNat := by
    rwa [toNat_byte byte]
  have continues (n : Nat) : continuesCharacter (UInt8.ofNat (n % 64 + 128)) = true := by
    rw [continuesCharacter_iff, toNat_byte (by omega)]
    omega
  show (c.val.toNat < 0x80 ∧ _ = [UInt8.ofNat c.val.toNat]) ∨ _
  unfold String.utf8EncodeChar
  generalize c.val.toNat = m
  dsimp only
  split_ifs with one two three
  · exact .inl ⟨by omega, rfl⟩
  · refine .inr ⟨_, _, rfl, begins (by omega) (by omega), ?_⟩
    simp only [List.forall_mem_cons]
    exact ⟨continues _, nofun⟩
  · refine .inr ⟨_, _, rfl, begins (by omega) (by omega), ?_⟩
    simp only [List.forall_mem_cons]
    exact ⟨continues _, continues _, nofun⟩
  · refine .inr ⟨_, _, rfl, begins (by omega) (by omega), ?_⟩
    simp only [List.forall_mem_cons]
    exact ⟨continues _, continues _, continues _, nofun⟩

theorem encodeChar_ascii {c : Char} (ascii : c.toNat < 0x80) :
    String.utf8EncodeChar c = [UInt8.ofNat c.toNat] :=
  if_pos (Nat.le_of_lt_succ ascii)

/-- Of the bytes of a character all but the first lie inside it. -/
theorem continues_encodeChar_iff {c : Char} {i : Nat} {b : UInt8}
    (here : (String.utf8EncodeChar c)[i]? = some b) : continuesCharacter b = true ↔ 0 < i := by
  rcases encodeChar_cases c with ⟨ascii, bytes⟩ | ⟨first, inside, bytes, begins, continues⟩
  · rw [bytes] at here
    cases i with
    | zero =>
      cases here
      rw [continuesCharacter_iff, toNat_byte (by omega)]
      omega
    | succ i => cases here
  · rw [bytes] at here
    cases i with
    | zero =>
      cases here
      rw [continuesCharacter_iff]
      omega
    | succ i => exact iff_of_true (continues b (List.mem_of_getElem? here)) i.succ_pos

/-- So many bytes are those of the first of some characters. -/
def Boundary (cs : List Char) (n : Nat) : Prop :=
  ∃ first, first <+: cs ∧ (first.flatMap String.utf8EncodeChar).length = n

theorem boundary_cons {c : Char} {rest : List Char} {n : Nat} :
    Boundary (c :: rest) n ↔ n = 0 ∨ ∃ m, Boundary rest m ∧ (String.utf8EncodeChar c).length + m = n := by
  constructor
  · rintro ⟨first, before, rfl⟩
    rcases List.prefix_cons_iff.1 before with rfl | ⟨later, rfl, front⟩
    · exact .inl rfl
    · exact .inr ⟨_, ⟨later, front, rfl⟩, by simp⟩
  · rintro (rfl | ⟨m, ⟨first, before, rfl⟩, rfl⟩)
    · exact ⟨[], List.nil_prefix, rfl⟩
    · exact ⟨c :: first, List.prefix_cons_iff.2 (.inr ⟨first, rfl, before⟩), by simp⟩

/-- A byte lies inside a character just if none ends in front of it. -/
theorem continues_iff (cs : List Char) {n : Nat} {b : UInt8}
    (here : (cs.flatMap String.utf8EncodeChar)[n]? = some b) :
    continuesCharacter b = true ↔ ¬ Boundary cs n := by
  induction cs generalizing n with
  | nil => cases here
  | cons c rest ih =>
    have size := List.length_pos_iff.2 (encodeChar_ne_nil c)
    rw [List.flatMap_cons, List.getElem?_append] at here
    split at here
    · rename_i inside
      rw [continues_encodeChar_iff here, boundary_cons, not_or]
      refine ⟨fun later => ⟨by omega, ?_⟩, fun apart => Nat.pos_of_ne_zero apart.1⟩
      rintro ⟨m, _, rfl⟩
      omega
    · rename_i beyond
      rw [ih here, not_iff_not, boundary_cons]
      constructor
      · intro ends
        exact .inr ⟨_, ends, by omega⟩
      · rintro (rfl | ⟨m, ends, rfl⟩)
        · omega
        · rwa [Nat.add_sub_cancel_left]

/-- A byte below 128 is a character of its own. -/
theorem exists_cons_of_ascii {cs : List Char} {b : UInt8} {bs : List UInt8} (ascii : b.toNat < 0x80)
    (spelt : cs.flatMap String.utf8EncodeChar = b :: bs) :
    ∃ c rest, cs = c :: rest ∧ c.toNat = b.toNat ∧ rest.flatMap String.utf8EncodeChar = bs := by
  cases cs with
  | nil => cases spelt
  | cons c rest =>
    rw [List.flatMap_cons] at spelt
    rcases encodeChar_cases c with ⟨small, bytes⟩ | ⟨first, inside, bytes, begins, _⟩
    · rw [bytes] at spelt
      cases spelt
      exact ⟨c, rest, rfl, (toNat_byte (by omega)).symm, rfl⟩
    · rw [bytes] at spelt
      cases spelt
      omega

end Text

/-! ## Channels -/

/-- A hexadecimal digit is how a number below sixteen is written, in either case. -/
def HexDigit (c : Char) (n : Nat) : Prop :=
  n < 16 ∧ (c = n.digitChar ∨ c = n.digitChar.toUpper)

instance (c : Char) (n : Nat) : Decidable (HexDigit c n) :=
  inferInstanceAs (Decidable (_ ∧ _))

theorem HexDigit.ascii {c : Char} {n : Nat} (digit : HexDigit c n) : c.toNat < 0x80 := by
  obtain ⟨small, rfl | rfl⟩ := digit <;> interval_cases n <;> decide

theorem HexDigit.ne_plus {c : Char} {n : Nat} (digit : HexDigit c n) : c ≠ '+' := by
  obtain ⟨small, rfl | rfl⟩ := digit <;> interval_cases n <;> decide

theorem hexDigit?_eq_some_iff {c : Char} {b : UInt8} (same : c.toNat = b.toNat) {n : Nat} :
    hexDigit? b = some n ↔ HexDigit c n := by
  unfold hexDigit?
  rw [← same]
  constructor
  · intro read
    rw [← c.ofNat_toNat]
    generalize c.toNat = m at read
    dsimp only at read
    split_ifs at read with figure lower upper <;> cases read
    · obtain ⟨least, most⟩ := figure
      interval_cases m <;> decide
    · obtain ⟨least, most⟩ := lower
      interval_cases m <;> decide
    · obtain ⟨least, most⟩ := upper
      interval_cases m <;> decide
  · rintro ⟨small, rfl | rfl⟩ <;> interval_cases n <;> rfl

theorem hexDigit?_ascii {b : UInt8} {n : Nat} (read : hexDigit? b = some n) : b.toNat < 0x80 := by
  unfold hexDigit? at read
  dsimp only at read
  split_ifs at read <;> omega

/-- The characters of a channel: two digits, or a plus sign and one. -/
inductive Channel : List Char → Nat → Prop where
  | digits {a b : Char} {high low : Nat} : HexDigit a high → HexDigit b low → Channel [a, b] (16 * high + low)
  | signed {b : Char} {low : Nat} : HexDigit b low → Channel ['+', b] low

theorem channel?_eq_some_iff {a b : UInt8} {c d : Char} (first : c.toNat = a.toNat) (second : d.toNat = b.toNat)
    {v : Nat} : channel? a b = some v ↔ Channel [c, d] v := by
  have plus : a = 43 ↔ c = '+' := by
    rw [← UInt8.toNat_inj, ← first, ← Char.toNat_inj]
    rfl
  unfold channel?
  split_ifs with sign
  · obtain rfl := plus.1 sign
    rw [hexDigit?_eq_some_iff second]
    refine ⟨.signed, fun channel => ?_⟩
    cases channel with
    | digits high _ => exact absurd rfl high.ne_plus
    | signed low => exact low
  · simp only [Option.bind_eq_bind, Option.bind_eq_some_iff, hexDigit?_eq_some_iff first,
      hexDigit?_eq_some_iff second, Option.pure_def, Option.some.injEq]
    constructor
    · rintro ⟨high, upper, low, lower, rfl⟩
      exact .digits upper lower
    · intro channel
      cases channel with
      | digits upper lower => exact ⟨_, upper, _, lower, rfl⟩
      | signed _ => exact absurd (plus.2 rfl) sign

theorem channel?_ascii {a b : UInt8} {v : Nat} (read : channel? a b = some v) :
    a.toNat < 0x80 ∧ b.toNat < 0x80 := by
  unfold channel? at read
  split_ifs at read with sign
  · exact ⟨sign ▸ by decide, hexDigit?_ascii read⟩
  · simp only [Option.bind_eq_bind, Option.bind_eq_some_iff] at read
    obtain ⟨high, upper, low, lower, _⟩ := read
    exact ⟨hexDigit?_ascii upper, hexDigit?_ascii lower⟩

/-- Bytes that are read as a channel are two characters that spell it. -/
theorem exists_channel {cs : List Char} {a b : UInt8} {bs : List UInt8} {v : Nat}
    (spelt : cs.flatMap String.utf8EncodeChar = a :: b :: bs) (read : channel? a b = some v) :
    ∃ p rest, cs = p ++ rest ∧ Channel p v ∧ rest.flatMap String.utf8EncodeChar = bs := by
  obtain ⟨one, two⟩ := channel?_ascii read
  obtain ⟨c, cs, rfl, first, spelt⟩ := Text.exists_cons_of_ascii one spelt
  obtain ⟨d, rest, rfl, second, spelt⟩ := Text.exists_cons_of_ascii two spelt
  exact ⟨[c, d], rest, rfl, (channel?_eq_some_iff first second).1 read, spelt⟩

namespace Channel

variable {cs : List Char} {v : Nat}

theorem pair (channel : Channel cs v) : ∃ c d, cs = [c, d] ∧ c.toNat < 0x80 ∧ d.toNat < 0x80 := by
  cases channel with
  | digits upper lower => exact ⟨_, _, rfl, upper.ascii, lower.ascii⟩
  | signed lower => exact ⟨_, _, rfl, by decide, lower.ascii⟩

/-- A channel is spelt in two bytes, which are read as it. -/
theorem bytes (channel : Channel cs v) : ∃ a b, cs.flatMap String.utf8EncodeChar = [a, b] ∧
    channel? a b = some v ∧ continuesCharacter a = false := by
  obtain ⟨c, d, rfl, one, two⟩ := channel.pair
  refine ⟨.ofNat c.toNat, .ofNat d.toNat, ?_, ?_, ?_⟩
  · rw [List.flatMap_cons, List.flatMap_singleton, Text.encodeChar_ascii one, Text.encodeChar_ascii two]
    rfl
  · exact (channel?_eq_some_iff (Text.toNat_byte (by omega)).symm (Text.toNat_byte (by omega)).symm).2 channel
  · rw [Bool.eq_false_iff, Ne, Text.continuesCharacter_iff, Text.toNat_byte (by omega)]
    omega

/-- Without a sign a channel is two digits. -/
theorem unsigned (channel : Channel cs v) (none : '+' ∉ cs) :
    cs.length = 2 ∧ ∀ d ∈ cs, ∃ n, HexDigit d n := by
  cases channel with
  | digits upper lower => simpa using ⟨⟨_, upper⟩, ⟨_, lower⟩⟩
  | signed _ => exact absurd List.mem_cons_self none

end Channel

/-! ## Readings -/

/-- A hash sign and three channels. -/
def IsColour (text : String) (red green blue : Nat) : Prop :=
  ∃ p q r, text.toList = '#' :: (p ++ (q ++ r)) ∧ Channel p red ∧ Channel q green ∧ Channel r blue

/-- A hash sign and six bytes, where a character spans the second byte and the third, or else the first two are a
channel and a character spans the fourth byte and the fifth. -/
def IsCut (text : String) : Prop :=
  ∃ cs, text.toList = '#' :: cs ∧ (cs.flatMap String.utf8EncodeChar).length = 6 ∧
    (¬ Text.Boundary cs 2 ∨ ¬ Text.Boundary cs 4 ∧ ∃ p rest v, cs = p ++ rest ∧ Channel p v)

namespace ColourReading

variable {text : String} {red green blue : Nat} {a b c d e f : UInt8}

theorem utf8_eq_iff {bs : List UInt8} : Text.utf8 text = 35 :: bs ↔
    ∃ cs, text.toList = '#' :: cs ∧ cs.flatMap String.utf8EncodeChar = bs := by
  constructor
  · intro spelt
    obtain ⟨c, cs, chars, hash, spelt⟩ := Text.exists_cons_of_ascii (by decide) spelt
    obtain rfl : c = '#' := Char.toNat_inj.1 hash
    exact ⟨cs, chars, spelt⟩
  · rintro ⟨cs, chars, rfl⟩
    rw [Text.utf8, chars]
    rfl

theorem ofText_of_bytes (spelt : Text.utf8 text = [35, a, b, c, d, e, f]) :
    ofText text = ofBytes a b c d e f := by
  rw [ofText, spelt]
  rfl

theorem bytes_of_ofText {reading : ColourReading} (read : ofText text = reading) (other : reading ≠ .noColour) :
    ∃ a b c d e f, Text.utf8 text = [35, a, b, c, d, e, f] ∧ ofBytes a b c d e f = reading := by
  unfold ofText at read
  split at read
  · rename_i a b c d e f spelt
    exact ⟨a, b, c, d, e, f, spelt, read⟩
  · exact absurd read.symm other

theorem ofBytes_eq_channels_iff : ofBytes a b c d e f = .channels red green blue ↔
    continuesCharacter c = false ∧ continuesCharacter e = false ∧
      channel? a b = some red ∧ channel? c d = some green ∧ channel? e f = some blue := by
  unfold ofBytes
  cases continuesCharacter c <;> cases continuesCharacter e <;> cases channel? a b <;>
    cases channel? c d <;> cases channel? e f <;> simp

theorem ofBytes_eq_cuts_iff : ofBytes a b c d e f = .cutsCharacter ↔
    continuesCharacter c = true ∨ continuesCharacter e = true ∧ ∃ red, channel? a b = some red := by
  unfold ofBytes
  cases continuesCharacter c <;> cases continuesCharacter e <;> cases channel? a b <;>
    cases channel? c d <;> cases channel? e f <;> simp

theorem ofText_eq_channels_iff : ofText text = .channels red green blue ↔ IsColour text red green blue := by
  constructor
  · intro read
    obtain ⟨a, b, c, d, e, f, spelt, read⟩ := bytes_of_ofText read nofun
    obtain ⟨_, _, first, second, third⟩ := ofBytes_eq_channels_iff.1 read
    obtain ⟨cs, chars, spelt⟩ := utf8_eq_iff.1 spelt
    obtain ⟨p, cs, rfl, reds, spelt⟩ := exists_channel spelt first
    obtain ⟨q, cs, rfl, greens, spelt⟩ := exists_channel spelt second
    obtain ⟨r, cs, rfl, blues, spelt⟩ := exists_channel spelt third
    obtain rfl : cs = [] := by
      cases cs with
      | nil => rfl
      | cons c cs => exact absurd (List.append_eq_nil_iff.1 spelt).1 (Text.encodeChar_ne_nil c)
    exact ⟨p, q, r, by simpa using chars, reds, greens, blues⟩
  · rintro ⟨p, q, r, chars, reds, greens, blues⟩
    obtain ⟨a, b, one, first, _⟩ := reds.bytes
    obtain ⟨c, d, two, second, second'⟩ := greens.bytes
    obtain ⟨e, f, three, third, third'⟩ := blues.bytes
    have spelt : Text.utf8 text = [35, a, b, c, d, e, f] :=
      utf8_eq_iff.2 ⟨_, chars, by simp [one, two, three]⟩
    rw [ofText_of_bytes spelt, ofBytes_eq_channels_iff]
    exact ⟨second', third', first, second, third⟩

theorem ofText_eq_cuts_iff : ofText text = .cutsCharacter ↔ IsCut text := by
  constructor
  · intro read
    obtain ⟨a, b, c, d, e, f, spelt, read⟩ := bytes_of_ofText read nofun
    obtain ⟨cs, chars, spelt⟩ := utf8_eq_iff.1 spelt
    refine ⟨cs, chars, by rw [spelt]; rfl, ?_⟩
    rw [← Text.continues_iff cs (b := c) (by rw [spelt]; rfl), ← Text.continues_iff cs (b := e) (by rw [spelt]; rfl)]
    refine (ofBytes_eq_cuts_iff.1 read).imp_right (And.imp_right ?_)
    rintro ⟨red, first⟩
    obtain ⟨p, rest, rfl, channel, _⟩ := exists_channel spelt first
    exact ⟨p, rest, red, rfl, channel⟩
  · rintro ⟨cs, chars, size, cut⟩
    match spelt : cs.flatMap String.utf8EncodeChar, size with
    | [a, b, c, d, e, f], _ =>
      rw [ofText_of_bytes (utf8_eq_iff.2 ⟨cs, chars, spelt⟩), ofBytes_eq_cuts_iff,
        Text.continues_iff cs (n := 2) (by rw [spelt]; rfl),
        Text.continues_iff cs (n := 4) (by rw [spelt]; rfl)]
      refine cut.imp_right (And.imp_right ?_)
      rintro ⟨p, rest, v, rfl, channel⟩
      obtain ⟨x, y, bytes, read, _⟩ := channel.bytes
      simp only [List.flatMap_append, bytes, List.cons_append, List.cons.injEq] at spelt
      exact ⟨v, spelt.1 ▸ spelt.2.1 ▸ read⟩

end ColourReading

/-! ## Out of focus -/

/-- A hash sign and six hexadecimal digits. -/
def SixDigits (text : String) : Prop :=
  ∃ digits, text.toList = '#' :: digits ∧ digits.length = 6 ∧ ∀ d ∈ digits, ∃ n, HexDigit d n

/-- A hash sign and three channels, of which some have a sign. -/
def IsSigned (text : String) : Prop :=
  '+' ∈ text.toList ∧ ∃ red green blue, IsColour text red green blue

/-- What a text is meant to come to: six digits come out in gray, and all else stays as it is. -/
structure FadesAsMeant (text : String) (theme : Theme) : Prop where
  gray : SixDigits text → ∃ v, mutedColour? text theme = some (grayText v)
  same : ¬ SixDigits text → mutedColour? text theme = some text

section

variable {text : String} {theme : Theme} {red green blue : Nat}

theorem mutedColour?_of_isColour (colour : IsColour text red green blue) :
    mutedColour? text theme = some (grayText (grayOf red green blue theme)) := by
  rw [mutedColour?, ColourReading.ofText_eq_channels_iff.2 colour]

theorem mutedColour?_eq_none_iff : mutedColour? text theme = none ↔ IsCut text := by
  rw [← ColourReading.ofText_eq_cuts_iff, mutedColour?]
  cases ColourReading.ofText text <;> simp

theorem mutedColour?_of_neither (plain : ¬ ∃ red green blue, IsColour text red green blue)
    (whole : ¬ IsCut text) : mutedColour? text theme = some text := by
  rw [mutedColour?]
  cases read : ColourReading.ofText text with
  | channels red green blue => exact absurd ⟨_, _, _, ColourReading.ofText_eq_channels_iff.1 read⟩ plain
  | noColour => rfl
  | cutsCharacter => exact absurd (ColourReading.ofText_eq_cuts_iff.1 read) whole

theorem IsColour.ne_gray (colour : IsColour text red green blue) (v : UInt8) : grayText v ≠ text := by
  rintro rfl
  obtain ⟨_, _, _, chars, _⟩ := colour
  simp [grayText] at chars

theorem mutedColour?_eq_self_iff : mutedColour? text theme = some text ↔
    ¬ IsCut text ∧ ¬ ∃ red green blue, IsColour text red green blue := by
  refine ⟨fun same => ⟨fun cut => ?_, ?_⟩, fun ⟨whole, plain⟩ => mutedColour?_of_neither plain whole⟩
  · cases (mutedColour?_eq_none_iff.2 cut).symm.trans same
  · rintro ⟨red, green, blue, colour⟩
    rw [mutedColour?_of_isColour colour, Option.some_inj] at same
    exact colour.ne_gray _ same

theorem SixDigits.isColour (six : SixDigits text) : ∃ red green blue, IsColour text red green blue := by
  obtain ⟨digits, chars, length, each⟩ := six
  match digits, length with
  | [a, b, c, d, e, f], _ =>
    simp only [List.forall_mem_cons] at each
    obtain ⟨⟨_, a⟩, ⟨_, b⟩, ⟨_, c⟩, ⟨_, d⟩, ⟨_, e⟩, ⟨_, f⟩, _⟩ := each
    exact ⟨_, _, _, _, _, _, chars, .digits a b, .digits c d, .digits e f⟩

theorem SixDigits.unsigned (six : SixDigits text) : '+' ∉ text.toList := by
  obtain ⟨digits, chars, _, each⟩ := six
  rw [chars, List.mem_cons]
  rintro (hash | among)
  · cases hash
  · obtain ⟨n, digit⟩ := each _ among
    exact digit.ne_plus rfl

theorem IsColour.sixDigits (colour : IsColour text red green blue) (unsigned : '+' ∉ text.toList) :
    SixDigits text := by
  obtain ⟨p, q, r, chars, reds, greens, blues⟩ := colour
  simp only [chars, List.mem_cons, List.mem_append, not_or] at unsigned
  obtain ⟨_, inP, inQ, inR⟩ := unsigned
  obtain ⟨one, reds⟩ := reds.unsigned inP
  obtain ⟨two, greens⟩ := greens.unsigned inQ
  obtain ⟨three, blues⟩ := blues.unsigned inR
  refine ⟨_, chars, by simp [one, two, three], ?_⟩
  simp only [List.forall_mem_append]
  exact ⟨reds, greens, blues⟩

theorem fadesAsMeant_iff : FadesAsMeant text theme ↔ ¬ IsCut text ∧ ¬ IsSigned text := by
  constructor
  · rintro ⟨gray, same⟩
    constructor
    · intro cut
      have nothing : mutedColour? text theme = none := mutedColour?_eq_none_iff.2 cut
      by_cases six : SixDigits text
      · obtain ⟨v, some⟩ := gray six
        cases nothing.symm.trans some
      · cases nothing.symm.trans (same six)
    · rintro ⟨sign, colour⟩
      exact (mutedColour?_eq_self_iff.1 (same fun six => six.unsigned sign)).2 colour
  · rintro ⟨whole, unsigned⟩
    constructor
    · intro six
      obtain ⟨red, green, blue, colour⟩ := six.isColour
      exact ⟨_, mutedColour?_of_isColour colour⟩
    · intro other
      refine mutedColour?_of_neither ?_ whole
      rintro ⟨red, green, blue, colour⟩
      by_cases sign : '+' ∈ text.toList
      · exact unsigned ⟨sign, _, _, _, colour⟩
      · exact other (colour.sixDigits sign)

end

/-- What a text comes to out of focus. -/
structure Fades (text : String) (theme : Theme) : Prop where
  /-- A hash sign and three channels come out in gray, in the shade of the three, -/
  gray : ∀ red green blue, IsColour text red green blue →
    mutedColour? text theme = some (grayText (grayOf red green blue theme))
  /-- nothing comes of a text in which a character is cut, -/
  cut : mutedColour? text theme = none ↔ IsCut text
  /-- and any other stays as it is. -/
  same : mutedColour? text theme = some text ↔ ¬ IsCut text ∧ ¬ ∃ red green blue, IsColour text red green blue
  /-- That is as it is meant just if no character is cut and no channel has a sign. -/
  meant : FadesAsMeant text theme ↔ ¬ IsCut text ∧ ¬ IsSigned text

theorem fades (text : String) (theme : Theme) : Fades text theme where
  gray _ _ _ colour := mutedColour?_of_isColour colour
  cut := mutedColour?_eq_none_iff
  same := mutedColour?_eq_self_iff
  meant := fadesAsMeant_iff

/-- Nothing comes of a text in which a character spans the second byte and the third, and three channels with a sign
each come out in gray. -/
theorem fades_otherwise :
    (mutedColour? "#1é234" .light = none ∧ ¬ FadesAsMeant "#1é234" .light) ∧
      mutedColour? "#+f+f+f" .light = some (grayText (grayOf 15 15 15 .light)) ∧
        ¬ FadesAsMeant "#+f+f+f" .light := by
  have cut : IsCut "#1é234" := ColourReading.ofText_eq_cuts_iff.1 rfl
  have digit : HexDigit 'f' 15 := by decide
  have colour : IsColour "#+f+f+f" 15 15 15 :=
    ⟨_, _, _, rfl, .signed digit, .signed digit, .signed digit⟩
  have signed : IsSigned "#+f+f+f" := ⟨by decide, _, _, _, colour⟩
  exact ⟨⟨mutedColour?_eq_none_iff.2 cut, fun meant => (fadesAsMeant_iff.1 meant).1 cut⟩,
    mutedColour?_of_isColour colour, fun meant => (fadesAsMeant_iff.1 meant).2 signed⟩

end GraphViewer

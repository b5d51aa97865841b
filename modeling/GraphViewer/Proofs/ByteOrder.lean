import Mathlib.Data.String.Basic
import GraphViewer.Text.Percent
/-
The order of texts by their bytes. UTF-8 spells the number of a character out in its bytes, the most significant
part first, and takes more bytes only for greater numbers, whose first byte is then greater as well. So the first
byte in which two texts differ tells them apart in the same way as the first character does.
-/

namespace GraphViewer.Text

/-- At the first place at which they differ, one list of bytes has the lesser one. -/
def Precedes (a b : List UInt8) : Prop :=
  ∃ common x y s t, a = common ++ x :: s ∧ b = common ++ y :: t ∧ x < y

namespace Precedes

variable {a b s t : List UInt8}

theorem lt (precedes : Precedes a b) : a < b := by
  obtain ⟨common, x, y, s, t, rfl, rfl, less⟩ := precedes
  exact List.append_left_lt (List.cons_lt_cons_iff.2 (.inl less))

theorem append (precedes : Precedes a b) (s t : List UInt8) : Precedes (a ++ s) (b ++ t) := by
  obtain ⟨common, x, y, s', t', rfl, rfl, less⟩ := precedes
  exact ⟨common, x, y, s' ++ s, t' ++ t, by simp, by simp, less⟩

theorem head {m n : Nat} (less : m < n) (inside : n < 256) :
    Precedes (UInt8.ofNat m :: s) (UInt8.ofNat n :: t) :=
  ⟨[], _, _, s, t, rfl, rfl, (UInt8.ofNat_lt_iff_lt (less.trans inside) inside).2 less⟩

/-- The bytes that follow decide only if the first ones are the same. -/
theorem byte {m n : Nat} (notGreater : m ≤ n) (inside : n < 256) (rest : m = n → Precedes s t) :
    Precedes (UInt8.ofNat m :: s) (UInt8.ofNat n :: t) := by
  rcases notGreater.lt_or_eq with less | rfl
  · exact head less inside
  · obtain ⟨common, x, y, s', t', rfl, rfl, less⟩ := rest rfl
    exact ⟨_ :: common, x, y, s', t', rfl, rfl, less⟩

end Precedes

theorem val_le (c : Char) : c.val.toNat ≤ 0x10ffff := by
  have valid := c.valid
  rw [UInt32.isValidChar, Nat.isValidChar] at valid
  omega

/-- A character with a lesser number has lesser bytes. -/
theorem precedes_encodeChar {c d : Char} (less : c < d) :
    Precedes (String.utf8EncodeChar c) (String.utf8EncodeChar d) := by
  have below : c.val.toNat < d.val.toNat := UInt32.lt_iff_toNat_lt.1 less
  have most := val_le d
  unfold String.utf8EncodeChar
  generalize c.val.toNat = m, d.val.toNat = n at below most
  dsimp only
  by_cases one : m ≤ 0x7f
  · rw [if_pos one]
    split_ifs <;> exact .head (by omega) (by omega)
  rw [if_neg one, if_neg (by omega : ¬ n ≤ 0x7f)]
  by_cases two : m ≤ 0x7ff
  · rw [if_pos two]
    split_ifs
    · exact .byte (by omega) (by omega) fun _ => .head (by omega) (by omega)
    · exact .head (by omega) (by omega)
    · exact .head (by omega) (by omega)
  rw [if_neg two, if_neg (by omega : ¬ n ≤ 0x7ff)]
  by_cases three : m ≤ 0xffff
  · rw [if_pos three]
    split_ifs
    · exact .byte (by omega) (by omega) fun _ => .byte (by omega) (by omega) fun _ =>
        .head (by omega) (by omega)
    · exact .head (by omega) (by omega)
  rw [if_neg three, if_neg (by omega : ¬ n ≤ 0xffff)]
  exact .byte (by omega) (by omega) fun _ => .byte (by omega) (by omega) fun _ =>
    .byte (by omega) (by omega) fun _ => .head (by omega) (by omega)

theorem encodeChar_ne_nil (c : Char) : String.utf8EncodeChar c ≠ [] := by
  unfold String.utf8EncodeChar
  dsimp only
  split_ifs <;> nofun

theorem encodeChars_lt {cs ds : List Char} (less : cs < ds) :
    cs.flatMap String.utf8EncodeChar < ds.flatMap String.utf8EncodeChar := by
  induction less with
  | @nil d ds =>
    obtain ⟨b, bs, bytes⟩ := List.exists_cons_of_ne_nil (encodeChar_ne_nil d)
    rw [List.flatMap_nil, List.flatMap_cons, bytes]
    exact List.nil_lt_cons _ _
  | cons _ ih =>
    rw [List.flatMap_cons, List.flatMap_cons]
    exact List.append_left_lt ih
  | rel first =>
    rw [List.flatMap_cons, List.flatMap_cons]
    exact ((precedes_encodeChar first).append _ _).lt

/-- Texts in order have their bytes in order. -/
theorem utf8_lt {s t : String} (less : s < t) : utf8 s < utf8 t :=
  encodeChars_lt (String.lt_iff_toList_lt.1 less)

end GraphViewer.Text

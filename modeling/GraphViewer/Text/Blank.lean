/-
Blank characters, those with the Unicode property White_Space, and trimming them off a text.
-/

namespace GraphViewer.Text

/-- The property White_Space. -/
def isBlank (c : Char) : Bool :=
  let n := c.toNat
  (0x9 ≤ n && n ≤ 0xd) || n == 0x20 || n == 0x85 || n == 0xa0 || n == 0x1680 ||
    (0x2000 ≤ n && n ≤ 0x200a) || n == 0x2028 || n == 0x2029 || n == 0x202f || n == 0x205f ||
    n == 0x3000

/-- The characters without the blank ones at either end. -/
def trimmed (cs : List Char) : List Char :=
  ((cs.dropWhile isBlank).reverse.dropWhile isBlank).reverse

/-- The text without the blank characters at either end. -/
def trim (s : String) : String :=
  String.ofList (trimmed s.toList)

/-- Nothing is left to drop at the front of what has been kept. -/
theorem dropWhile_of_prefix_dropWhile {p : Char → Bool} {cs kept : List Char} (front : kept <+: cs.dropWhile p) :
    kept.dropWhile p = kept := by
  cases kept with
  | nil => rfl
  | cons c rest =>
    obtain ⟨tail, same⟩ := front
    have head := List.head?_dropWhile_not p cs
    rw [← same] at head
    exact List.dropWhile_cons_of_neg (by simpa using head)

theorem trimmed_isPrefix (cs : List Char) : trimmed cs <+: cs.dropWhile isBlank := by
  rw [← List.reverse_suffix, trimmed, List.reverse_reverse]
  exact List.dropWhile_suffix _

theorem trimmed_trimmed (cs : List Char) : trimmed (trimmed cs) = trimmed cs := by
  rw [trimmed, dropWhile_of_prefix_dropWhile (trimmed_isPrefix cs), trimmed, List.reverse_reverse,
    dropWhile_of_prefix_dropWhile (List.prefix_refl _)]

theorem trim_trim (s : String) : trim (trim s) = trim s := by
  simp [trim, trimmed_trimmed]

end GraphViewer.Text

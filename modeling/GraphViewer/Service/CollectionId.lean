import GraphViewer.Text.Blank
/-
The id of a collection: a text without blanks at its ends that is not empty.
-/

namespace GraphViewer

structure CollectionId where
  text : String
  isTrimmed : Text.trim text = text
  notBlank : text ≠ ""
  deriving DecidableEq

namespace CollectionId

/-- The id that a text gives once its ends are trimmed; none if it is blank. -/
def ofText? (raw : String) : Option CollectionId :=
  if blank : Text.trim raw = "" then none else some ⟨Text.trim raw, Text.trim_trim raw, blank⟩

/-- The id that a part of the route gives, which may be missing. -/
def ofRoute? (raw : Option String) : Option CollectionId :=
  raw.bind ofText?

theorem ofText?_text (c : CollectionId) : ofText? c.text = some c := by
  unfold ofText?
  split
  · rename_i blank
    exact absurd (c.isTrimmed ▸ blank) c.notBlank
  · cases c
    simp_all

theorem ofText?_eq_none_iff (raw : String) : ofText? raw = none ↔ Text.trim raw = "" := by
  unfold ofText?
  split <;> simp_all

end CollectionId

/-- The collection that a view is showing, if it has shown one yet. -/
structure Scope where
  shown : Option CollectionId := none
  deriving DecidableEq

/-- Goes on to the next collection, and tells whether that leaves a different one. A missing id changes
nothing. -/
def Scope.enter (s : Scope) : Option CollectionId → Scope × Bool
  | none => (s, false)
  | some next => (⟨some next⟩, s.shown.any (· != next))

end GraphViewer

/-
Tickets for overlapping requests of one kind: a reply counts only if no later ticket has been taken.
-/

namespace GraphViewer

structure Ticket where
  number : Nat
  deriving DecidableEq, Repr

/-- How many tickets have been taken. They are counted without a bound, which comes to the same as a counter of
64 bits for fewer than 2 ^ 64 of them. -/
structure Tickets where
  taken : Nat := 0
  deriving DecidableEq, Repr

def Tickets.next (s : Tickets) : Tickets × Ticket :=
  (⟨s.taken + 1⟩, ⟨s.taken + 1⟩)

def Tickets.isCurrent (s : Tickets) (t : Ticket) : Bool :=
  s.taken == t.number

theorem Tickets.isCurrent_next (s : Tickets) : s.next.1.isCurrent s.next.2 = true := by
  simp [next, isCurrent]

end GraphViewer

import GraphViewer.View.State
/-
The service as a script gives it: the answers to the calls of a view, and the calls under way. Time always
comes to a stand: a reply starts new calls only if it answers an action, and these calls only read.
-/

namespace GraphViewer

/-- The answers of the service still to come, for each kind of call in its own order. -/
structure Script where
  graph : List Answer
  suggestions : List Answer
  actions : List Answer
  deriving DecidableEq, Repr

/-- What a call gets when the script has nothing left for it. -/
def noAnswer : Answer :=
  ⟨.unreachable "no reply scripted", some 0⟩

/-- The answer to a call, and the script after it. -/
def Script.next (s : Script) : Call → Answer × Script
  | .graph _ _ => (s.graph.headD noAnswer, { s with graph := s.graph.tail })
  | .suggestions _ _ => (s.suggestions.headD noAnswer, { s with suggestions := s.suggestions.tail })
  | .action _ _ _ => (s.actions.headD noAnswer, { s with actions := s.actions.tail })

/-- A call under way, when it ends and what it gets then. -/
structure Waiting where
  call : Call
  due : Nat
  reply : Option Reply
  deriving DecidableEq

/-- The call that ends next, the first one started of those that end together, and the others. -/
def earliest? : List Waiting → Option (Waiting × List Waiting)
  | [] => none
  | w :: rest =>
    match earliest? rest with
    | none => some (w, [])
    | some (u, others) => if u.due < w.due then some (u, w :: others) else some (w, rest)

/-! ## How much can come of calls -/

/-- More than the weight of the calls that come of a call. -/
def Call.weight : Call → Nat
  | .graph _ _ | .suggestions _ _ => 1
  | .action _ _ _ => 3

def totalWeight : List Call → Nat
  | [] => 0
  | c :: rest => c.weight + totalWeight rest

theorem totalWeight_append (a b : List Call) : totalWeight (a ++ b) = totalWeight a + totalWeight b := by
  induction a with
  | nil => simp [totalWeight]
  | cons c rest ih => simp [totalWeight, ih, Nat.add_assoc]

theorem Call.weight_pos (c : Call) : 0 < c.weight := by
  cases c <;> simp [weight]

theorem earliest?_eq_none {ws : List Waiting} (absent : earliest? ws = none) : ws = [] := by
  cases ws with
  | nil => rfl
  | cons w rest =>
    simp only [earliest?] at absent
    split at absent <;> try split at absent
    all_goals simp at absent

theorem totalWeight_earliest? {ws others : List Waiting} {w : Waiting}
    (found : earliest? ws = some (w, others)) :
    totalWeight (ws.map Waiting.call) = w.call.weight + totalWeight (others.map Waiting.call) := by
  induction ws generalizing w others with
  | nil => simp [earliest?] at found
  | cons first rest ih =>
    simp only [earliest?] at found
    split at found
    · next noneLater =>
      cases found
      simp [earliest?_eq_none noneLater, totalWeight]
    · next u later foundLater =>
      split at found
      · cases found
        have := ih foundLater
        simp only [totalWeight, List.map_cons]
        omega
      · cases found
        simp [totalWeight]

namespace View

theorem totalWeight_refresh {W N : Type} (v : View W N) : totalWeight v.refresh.2 ≤ 2 := by
  unfold refresh
  split
  · simp [totalWeight]
  · by_cases owner : v.access.isOwner <;>
      simp [readGraph, readSuggestions, owner, totalWeight, Call.weight]

variable {W N : Type} [Scalar W] [Scalar N] [Narrowing W N]

/-- A reply weighs more than the calls that come of it. -/
theorem totalWeight_replied (v : View W N) (call : Call) (reply : Option Reply) :
    totalWeight (v.replied call reply).calls < call.weight := by
  cases call with
  | graph collection ticket =>
    simp only [replied, graphReplied]
    split <;> try split
    all_goals simp [totalWeight, Call.weight]
  | suggestions collection ticket =>
    simp only [replied, suggestionsReplied]
    split <;> try split
    all_goals simp [totalWeight, Call.weight]
  | action collection suggestion answer =>
    simp only [replied, actionReplied]
    split
    · have := v.totalWeight_refresh
      simp only [Call.weight]
      omega
    · simp [totalWeight, Call.weight]

end View

end GraphViewer

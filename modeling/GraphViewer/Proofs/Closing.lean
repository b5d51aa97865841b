import GraphViewer.Proofs.Hovering
import GraphViewer.Proofs.Selecting
/-
What closing the panel of merge suggestions does to the active node. Closing clears the focus, and from then
on no node is active or shown in detail until the user selects one. But the focus is cleared only while a
snapshot is shown: after a load that failed the panel closes, the active node stays active, and the next
load brings it back.
-/

namespace GraphViewer

variable {W N : Type}

namespace View

variable {v w : View W N}

theorem detail?_of_inactive (inactive : v.interaction.activeNode? = none) : v.detail? = none := by
  unfold detail?
  split
  · rfl
  · rw [inactive]
    rfl

theorem activeNode?_of_drops (drops : Drops v w) : w.interaction.activeNode? = none := by
  rw [drops.interaction]
  rfl

variable [Scalar W] [Narrowing W N]

theorem closeMerges_isOpen (v : View W N) : (v.handle .closeMerges).view.merge.isOpen = false :=
  rfl

theorem closeMerges_interaction (v : View W N) : (v.handle .closeMerges).view.interaction =
    match v.snapshot? with
    | none => v.interaction
    | some s => (v.interaction.select s none).1 := by
  rw [handle, clearFocus]
  cases v.snapshot? <;> rfl

end View

namespace Session

variable {s next start : Session W N} {e : Event W} {config : Config} {access : Access}
  {route : Option String} {site : Site W} {events : List (Event W)}

variable [Scalar W] [Scalar N] [Narrowing W N]

/-- Before the first load of a collection has ended no node is active. -/
theorem inactive_of_pending (run : Run (mount config access route site) events s)
    (pending : s.view.outcome = .pending) : s.view.interaction.activeNode? = none := by
  revert pending
  refine run.keeps (fun s => s.view.outcome = .pending → s.view.interaction.activeNode? = none) ?_ ?_
  · intro _
    obtain ⟨_, _, _, _, view⟩ := mount_view (N := N) config access route site
    rw [view]
    rfl
  · intro s e next before step pending
    by_contra present
    obtain ⟨id, active⟩ := Option.ne_none_iff_exists'.1 present
    cases step.attends with
    | keeps unselected keeps =>
      rcases step.attends.active active with earlier | selected
      · simp [before (keeps.outcome.symm.trans pending)] at earlier
      · cases unselected.symm.trans selected
    | selects _ selects =>
      -- a selection needs a snapshot, and then the load has ended
      obtain ⟨snapshot, shown, _⟩ := selects.interaction
      have loaded := View.outcome_of_snapshot? shown
      cases pending.symm.trans (selects.outcome.trans loaded)
    | rests unselected _ _ rests =>
      rcases step.attends.active active with earlier | selected
      · simp [before (rests.outcome.symm.trans pending)] at earlier
      · cases unselected.symm.trans selected
    | drops _ drops => exact present (View.activeNode?_of_drops drops)
    | @settles collection _ answer _ _ _ _ view =>
      have outcome := (s.view.settle_keeps (s.view.client.graph collection s.view.access answer).1).2.2.1
      rw [← view, pending] at outcome
      generalize (s.view.client.graph collection s.view.access answer).1 = result at outcome
      cases result <;> cases outcome

theorem Run.inactive (run : Run start events s) (unselected : NoneSelected start events)
    (inactive : start.view.interaction.activeNode? = none) : s.view.interaction.activeNode? = none := by
  by_contra present
  obtain ⟨id, active⟩ := Option.ne_none_iff_exists'.1 present
  cases inactive.symm.trans (run.active unselected active)

/-- What closing the panel of merge suggestions comes to. -/
structure Closes (s next : Session W N) : Prop where
  closed : next.view.merge.isOpen = false
  /-- No node is active then, unless one was active and the graph had failed to load. -/
  inactive : next.view.interaction.activeNode? = none ↔
    s.view.interaction.activeNode? = none ∨ ∀ failure, s.view.outcome ≠ .failed failure
  /-- In that case all of the focus stays as it is. -/
  kept : ∀ {failure}, s.view.outcome = .failed failure → next.view.interaction = s.view.interaction
  /-- With no node active, none becomes active or is shown in detail before the user selects one. -/
  lasting : next.view.interaction.activeNode? = none → ∀ {later last}, Run next later last →
    NoneSelected next later → last.view.interaction.activeNode? = none ∧ last.view.detail? = none

/-- Closing the panel of merge suggestions leaves no node active for good, except after a load that failed:
then an active node stays active. -/
theorem closing_deselects (run : Run (mount config access route site) events s)
    (step : Step s (.use .closeMerges) next) : Closes s next := by
  have view : next.view = (s.view.handle .closeMerges).view := by
    cases step
    rfl
  have interaction := s.view.closeMerges_interaction
  rw [← view] at interaction
  refine ⟨view ▸ s.view.closeMerges_isOpen, ?_, ?_, ?_⟩
  · cases outcome : s.view.outcome with
    | pending =>
      have before := inactive_of_pending run outcome
      simp only [View.snapshot?, outcome, Outcome.snapshot?] at interaction
      simp [interaction, before]
    | loaded snapshot =>
      simp only [View.snapshot?, outcome, Outcome.snapshot?] at interaction
      simp [interaction, Interaction.select, Interaction.activeNode?]
    | failed failure =>
      simp only [View.snapshot?, outcome, Outcome.snapshot?] at interaction
      simp [interaction]
  · intro failure outcome
    simpa only [View.snapshot?, outcome, Outcome.snapshot?] using interaction
  · intro inactive later last rest unselected
    have still := rest.inactive unselected inactive
    exact ⟨still, View.detail?_of_inactive still⟩

/-- One suggestion that names a node, for closed runs. -/
def suggestedNode : Option Reply :=
  some (.response 200 "\x7b\"suggestions\":[\x7b\"id\":\"s1\",\"entity_ids\":[\"a\"]\x7d]\x7d")

/-- A node is selected in the panel of merge suggestions, and then the panel is closed. -/
theorem closing_deselects_selected : ∃ s next : Session Float Float32,
    Closes s next ∧ s.view.interaction.activeNode? = some "a" ∧
      next.view.interaction.activeNode? = none := by
  let start : Session Float Float32 := mount {} .owned (some "A") ⟨none, ⟨0, 0⟩, false⟩
  have nothing : Run start [] start := .nil
  have loaded := nothing.snoc (.reply (.graph collectionA ⟨1⟩) oneNode (by decide +kernel))
  have suggested := loaded.snoc (.reply (.suggestions collectionA ⟨1⟩) suggestedNode (by decide +kernel))
  have opened := suggested.snoc (.use (m := .openMerges) (by decide +kernel))
  have selected := opened.snoc (.use (m := .activate "a") (by decide +kernel))
  have closes {events} {s : Session Float Float32} (_ : Run start events s)
      (offered : s.view.Offers .closeMerges) :
      Step s (.use .closeMerges) (s.follow (s.view.handle .closeMerges)) :=
    .use offered
  have closed := closes selected (by decide +kernel)
  exact ⟨_, _, closing_deselects selected closed, by decide +kernel, by decide +kernel⟩

/-- The graph is read anew and fails while a node is active and the panel of merge suggestions is open. Once
the panel has been closed and the graph has been read, the node is active and shown in detail. -/
theorem closing_keeps_active : ∃ s next last : Session Float Float32,
    Run (mount {} .owned (some "A") ⟨none, ⟨0, 0⟩, false⟩)
      [.reply (.graph collectionA ⟨1⟩) oneNode, .reply (.suggestions collectionA ⟨1⟩) suggestedNode,
        .use .openMerges, .use (.activate "a"), .use .refresh, .reply (.graph collectionA ⟨2⟩) none] s ∧
      Step s (.use .closeMerges) next ∧ next.view.interaction.activeNode? = some "a" ∧
      Run next [.use .refresh, .reply (.graph collectionA ⟨3⟩) oneNode] last ∧
      (last.view.detail?.map fun shown => shown.1.id) = some "a" := by
  let start : Session Float Float32 := mount {} .owned (some "A") ⟨none, ⟨0, 0⟩, false⟩
  have nothing : Run start [] start := .nil
  have loaded := nothing.snoc (.reply (.graph collectionA ⟨1⟩) oneNode (by decide +kernel))
  have suggested := loaded.snoc (.reply (.suggestions collectionA ⟨1⟩) suggestedNode (by decide +kernel))
  have opened := suggested.snoc (.use (m := .openMerges) (by decide +kernel))
  have selected := opened.snoc (.use (m := .activate "a") (by decide +kernel))
  have refreshed := selected.snoc (.use (m := .refresh) (by decide +kernel))
  have failed := refreshed.snoc (.reply (.graph collectionA ⟨2⟩) none (by decide +kernel))
  have closes {events} {s : Session Float Float32} (_ : Run start events s)
      (offered : s.view.Offers .closeMerges) :
      Step s (.use .closeMerges) (s.follow (s.view.handle .closeMerges)) ∧
        Run (s.follow (s.view.handle .closeMerges)) [] (s.follow (s.view.handle .closeMerges)) :=
    ⟨.use offered, .nil⟩
  obtain ⟨closed, later⟩ := closes failed (by decide +kernel)
  have again := later.snoc (.use (m := .refresh) (by decide +kernel))
  have returned := again.snoc (.reply (.graph collectionA ⟨3⟩) oneNode (by decide +kernel))
  exact ⟨_, _, _, failed, closed, by decide +kernel, returned, by decide +kernel⟩

end Session

end GraphViewer

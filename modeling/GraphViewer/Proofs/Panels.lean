import Mathlib.Logic.Basic
import GraphViewer.Proofs.Closing
import GraphViewer.Proofs.Shown
/-
Which panel stands beside the graph. The panel of merge suggestions is opened from its badge only, which is
there only with suggestions, and these go away only with their collection, which closes the panel as well. The
detail panel gives way to it and is shown otherwise, if a node is active; a node that is active while a graph
is shown is one of it. So with a graph and an active node there is exactly one panel.
-/

namespace GraphViewer

variable {W N : Type}

namespace View

variable {v w : View W N}

/-! ## Opening and closing -/

theorem merge_hover (v : View W N) (target : Hover) : (v.hover target).merge = v.merge := by
  unfold hover
  split <;> rfl

/-- What can become of the panel of merge suggestions. -/
inductive Turns (v w : View W N) : Prop
  | keeps : w.merge.isOpen = v.merge.isOpen → w.merge.suggestions = v.merge.suggestions → Turns v w
  | opens : (∃ badge, v.badge? = some badge) → w.merge.suggestions = v.merge.suggestions → Turns v w
  | closes : w.merge.isOpen = false → Turns v w
  | fills {found : Suggestions} : w.merge.suggestions = some found → Turns v w

theorem turns_of_merge (same : w.merge = v.merge) : Turns v w :=
  .keeps (congrArg MergeState.isOpen same) (congrArg MergeState.suggestions same)

theorem suggestions_of_badge {badge : String × Nat} (present : v.badge? = some badge) :
    ∃ found, v.merge.suggestions = some found := by
  unfold badge? at present
  split at present
  · obtain ⟨found, isFound, _⟩ := Option.bind_eq_some_iff.1 present
    exact ⟨found, isFound⟩
  · cases present

/-- An open panel of merge suggestions has some to show. -/
def Filled (v : View W N) : Prop :=
  v.merge.isOpen = true → ∃ found, v.merge.suggestions = some found

theorem Filled.turns (filled : v.Filled) (turns : Turns v w) : w.Filled := by
  intro isOpen
  cases turns with
  | keeps same suggestions =>
    rw [same] at isOpen
    rw [suggestions]
    exact filled isOpen
  | opens badge suggestions =>
    obtain ⟨badge, present⟩ := badge
    rw [suggestions]
    exact suggestions_of_badge present
  | closes closed => cases closed.symm.trans isOpen
  | fills found => exact ⟨_, found⟩

variable [Scalar W] [Narrowing W N]

theorem merge_clickNode (v : View W N) (id : NodeId) : (v.clickNode id).view.merge = v.merge := by
  unfold clickNode
  split <;> rfl

theorem merge_clearFocus (v : View W N) : v.clearFocus.view.merge = v.merge := by
  unfold clearFocus
  split <;> rfl

theorem merge_activate (v : View W N) (id : NodeId) : (v.activate id).view.merge = v.merge := by
  unfold activate
  split
  · rfl
  · split <;> rfl

theorem turns_handle {m : Message} (offered : v.Offers m) : Turns v (v.handle m).view := by
  cases m with
  | toggleSearch => exact .keeps rfl rfl
  | searchFor query => exact .keeps rfl rfl
  | pick id => exact turns_of_merge (v.merge_clickNode id)
  | openMerges => exact .opens (offers_iff.1 offered) rfl
  | refresh =>
    obtain ⟨_, _, _, same⟩ := v.refresh_shows
    have merge : v.refresh.1.merge = v.merge := by rw [same]
    exact turns_of_merge merge
  | toggleFullscreen => exact .keeps rfl rfl
  | toggleType key => exact .keeps rfl rfl
  | activate id => exact turns_of_merge (v.merge_activate id)
  | clearFocus => exact turns_of_merge v.merge_clearFocus
  | closeMerges => exact .closes rfl
  | answer suggestion action =>
    rw [handle, answer]
    split <;> exact .keeps rfl rfl

variable [Scalar N]

/-- The pointer leaves the panel alone. -/
theorem merge_point (v : View W N) (e : PointerEvent W) : (v.point e).view.merge = v.merge := by
  unfold point
  split
  · rfl
  · rename_i l _
    cases e with
    | down screen => rfl
    | wheel screen turn => rfl
    | move screen =>
      rw [pointOn_move]
      cases (l.pointerMove (v.canvas.pointAt screen) v.targets).2 with
      | none => rfl
      | some target => exact merge_hover _ target
    | up =>
      rw [pointOn_up]
      cases l.pointerUp.2 with
      | none => rfl
      | some id => exact merge_clickNode _ id
    | leave =>
      rw [pointOn_leave]
      cases l.pointerLeave.2 with
      | true => exact merge_hover _ .nothing
      | false => rfl

theorem merge_frame {measure : Measure W} {strokes : List (Stroke W)}
    (painted : v.frame? measure = some (w, strokes)) : w.merge = v.merge := by
  unfold frame? at painted
  split at painted
  · cases painted
    rfl
  · obtain ⟨l, _, same⟩ := Option.map_eq_some_iff.1 painted
    cases same
    rfl

end View

namespace Session

variable {s next : Session W N} {e : Event W} {config : Config} {access : Access} {route : Option String}
  {site : Site W} {events : List (Event W)}

/-- With another collection the panel is closed. -/
theorem turns_entered (s : Session W N) (route : Option String) : s.view.Turns (s.entered route).view := by
  let routed : View W N := { s.view with route := route }
  obtain ⟨_, _, _, read⟩ := routed.arrived.refresh_shows
  have same : (s.entered route).view = routed.arrived.refresh.1 := rfl
  rw [same, read]
  rcases routed.arrived_cases with ⟨arrived, _⟩ | arrived
  · refine View.turns_of_merge ?_
    rw [arrived]
  · refine .closes ?_
    rw [arrived, View.reset]

variable [Scalar W] [Scalar N] [Narrowing W N]

theorem turns_ended (s : Session W N) (call : Call) (answer : Option Reply) :
    s.view.Turns (s.ended call answer).view := by
  cases call with
  | graph collection ticket =>
    rw [ended_graph]
    split
    · exact View.turns_of_merge (s.view.settle_keeps _).2.2.2
    · exact .keeps rfl rfl
  | suggestions collection ticket =>
    rw [ended_suggestions]
    split
    · cases (s.view.client.suggestions collection answer).1 with
      | ok found => exact .fills rfl
      | error failure => exact .keeps rfl rfl
    · exact .keeps rfl rfl
  | action collection suggestion action =>
    obtain ⟨_, _, _, _, view⟩ := s.ended_action collection suggestion action answer
    rw [view]
    exact .keeps rfl rfl

theorem Step.turns (step : Step s e next) : s.view.Turns next.view := by
  cases step with
  | use offered => exact View.turns_handle offered
  | point e => exact View.turns_of_merge (s.view.merge_point e)
  | navigate route =>
    by_cases same : route = s.view.route
    · rw [View.navigate, if_pos same]
      exact .keeps rfl rfl
    · rw [View.navigate, if_neg same]
      exact s.turns_entered route
  | resize room => exact .keeps rfl rfl
  | frame painted => exact View.turns_of_merge (View.merge_frame painted)
  | reply call answer _ => exact s.turns_ended call answer

theorem filled_run (run : Run (mount config access route site) events s) : s.view.Filled := by
  refine run.keeps (·.view.Filled) ?_ fun filled step => filled.turns step.turns
  intro isOpen
  obtain ⟨_, _, _, _, view⟩ := mount_view (N := N) config access route site
  rw [view] at isOpen
  cases isOpen

/-! ## The panels that are shown -/

/-- The active node of the snapshot is what the detail panel shows, unless the other panel is open. -/
theorem detail?_of_active (run : Run (mount config access route site) events s) {snapshot : Snapshot}
    {id : NodeId} (loaded : s.view.outcome = .loaded snapshot)
    (active : s.view.interaction.activeNode? = some id) (closed : s.view.merge.isOpen = false) :
    ∃ n, snapshot.node? id = some n ∧ n.id = id ∧ s.view.detail? = some (n, snapshot.relations id) := by
  have shown : s.view.outcome.snapshot? = some snapshot := congrArg Outcome.snapshot? loaded
  have focus := Interaction.activeNode?_eq_some_iff.1 active
  have contained := ((inStep_run run).settledIn shown).contained (congrArg Focus.node? focus)
  obtain ⟨n, found⟩ := Option.isSome_iff_exists.1 contained
  refine ⟨n, found, by simpa using List.find?_some found, ?_⟩
  simp [View.detail?, closed, active, shown, found]

/-- The panels of a view: the one with the active node, and the one with the merge suggestions. -/
structure OnePanel (v : View W N) : Prop where
  /-- The second one is open only with suggestions. -/
  filled : v.merge.isOpen = true → ∃ found, v.merge.suggestions = some found
  /-- They are never shown together, -/
  apart : ¬ (v.render.Shows Part.detail.className ∧ v.render.Shows Part.merges.className)
  /-- and with a graph and an active node exactly one of them is: -/
  one : ∀ {snapshot id}, v.outcome = .loaded snapshot → v.interaction.activeNode? = some id →
    Xor (v.render.Shows Part.detail.className) (v.render.Shows Part.merges.className)
  /-- either the suggestions, -/
  merges : ∀ {snapshot id}, v.outcome = .loaded snapshot → v.interaction.activeNode? = some id →
    v.merge.isOpen = true → ∃ found, v.merge.suggestions = some found ∧
      v.panels = [(Panel.mergePanel found v.merge.busy v.merge.error).map View.ofMerge]
  /-- or that very node of the graph with its relations. -/
  detail : ∀ {snapshot id}, v.outcome = .loaded snapshot → v.interaction.activeNode? = some id →
    v.merge.isOpen = false → ∃ n, snapshot.node? id = some n ∧ n.id = id ∧
      v.panels = [(Panel.nodeDetail n (snapshot.relations id)).map View.ofDetail]

/-- In every run at most one panel is shown at a time, and exactly one while a node of a graph is active. -/
theorem one_panel (run : Run (mount config access route site) events s) : OnePanel s.view where
  filled := filled_run run
  apart := by
    rw [View.shows_iff, View.shows_iff]
    rintro ⟨⟨shown, detail⟩, found, merging⟩
    cases isOpen : s.view.merge.isOpen with
    | true => simp [View.detail?, isOpen] at detail
    | false => simp [View.merging?, isOpen] at merging
  one := by
    intro snapshot id loaded active
    rw [View.shows_iff, View.shows_iff]
    cases isOpen : s.view.merge.isOpen with
    | true =>
      obtain ⟨found, suggestions⟩ := filled_run run isOpen
      refine .inr ⟨⟨found, ?_⟩, ?_⟩
      · simp [View.merging?, isOpen, suggestions]
      · simp [View.Has, View.detail?, isOpen]
    | false =>
      obtain ⟨n, _, _, detail⟩ := detail?_of_active run loaded active isOpen
      refine .inl ⟨⟨_, detail⟩, ?_⟩
      simp [View.Has, View.merging?, isOpen]
  merges := by
    intro snapshot id loaded active isOpen
    obtain ⟨found, suggestions⟩ := filled_run run isOpen
    refine ⟨found, suggestions, ?_⟩
    simp [View.panels, View.detail?, View.merging?, isOpen, suggestions]
  detail := by
    intro snapshot id loaded active closed
    obtain ⟨n, found, same, detail⟩ := detail?_of_active run loaded active closed
    refine ⟨n, found, same, ?_⟩
    simp [View.panels, detail, View.merging?, closed]

/-- A node is selected in the panel of merge suggestions, which stays open. -/
theorem one_panel_selected : ∃ s : Session Float Float32, OnePanel s.view ∧
    (∃ snapshot, s.view.outcome = .loaded snapshot) ∧ s.view.interaction.activeNode? = some "a" ∧
      s.view.merge.isOpen = true := by
  let start : Session Float Float32 := mount {} .owned (some "A") ⟨none, ⟨0, 0⟩, false⟩
  have nothing : Run start [] start := .nil
  have loaded := nothing.snoc (.reply (.graph collectionA ⟨1⟩) oneNode (by decide +kernel))
  have suggested := loaded.snoc (.reply (.suggestions collectionA ⟨1⟩) suggestedNode (by decide +kernel))
  have opened := suggested.snoc (.use (m := .openMerges) (by decide +kernel))
  have selected := opened.snoc (.use (m := .activate "a") (by decide +kernel))
  have shows {events} {s : Session Float Float32} (run : Run start events s)
      (some : s.view.snapshot?.isSome = true) :
      OnePanel s.view ∧ ∃ snapshot, s.view.outcome = .loaded snapshot := by
    obtain ⟨snapshot, shown⟩ := Option.isSome_iff_exists.1 some
    exact ⟨one_panel run, snapshot, View.outcome_of_snapshot? shown⟩
  obtain ⟨panels, graph⟩ := shows selected (by decide +kernel)
  exact ⟨_, panels, graph, by decide +kernel, by decide +kernel⟩

end Session

end GraphViewer

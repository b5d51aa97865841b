import GraphViewer.Proofs.Highlights
import GraphViewer.Proofs.Reading
/-
The groups, the focus and what is highlighted belong to the snapshot that is shown. A focus comes from the
canvas, from a list of the page or from a panel; the canvas is laid out anew with each snapshot, so the nodes
under the pointer are nodes of the snapshot, and a new snapshot drops a focus that it lacks.
-/

namespace GraphViewer

variable {W N : Type}

/-- The groups of a graph that was read are those of its snapshot. -/
theorem Client.groups_of_graph {c : Client} {collection : CollectionId} {access : Access}
    {reply : Option Reply} {loaded : Loaded} (read : (c.graph collection access reply).1 = .ok loaded) :
    loaded.groups = .ofSnapshot loaded.snapshot := by
  unfold graph at read
  split at read
  · cases read
  · cases read
    rfl

namespace View

variable {v w : View W N}

/-- Nothing that bears on the focus differs. -/
structure SameFocus (v w : View W N) : Prop where
  outcome : w.outcome = v.outcome
  groups : w.groups = v.groups
  interaction : w.interaction = v.interaction
  canvas : w.canvas = v.canvas

/-- What was in focus is dropped, and nothing is shown. -/
structure Drops (v w : View W N) : Prop where
  outcome : w.outcome = .pending
  interaction : w.interaction = .initial
  canvas : w.canvas = v.canvas

theorem sameFocus_refresh (v : View W N) : SameFocus v v.refresh.1 := by
  obtain ⟨_, _, _, same⟩ := v.refresh_shows
  rw [same]
  exact ⟨rfl, rfl, rfl, rfl⟩

theorem sameFocus_answer (v : View W N) (suggestion : String) (action : MergeAction) :
    SameFocus v (v.answer suggestion action).view := by
  rw [answer]
  split <;> exact ⟨rfl, rfl, rfl, rfl⟩

theorem SameFocus.trans {u : View W N} (one : SameFocus u v) (other : SameFocus v w) : SameFocus u w where
  outcome := other.outcome.trans one.outcome
  groups := other.groups.trans one.groups
  interaction := other.interaction.trans one.interaction
  canvas := other.canvas.trans one.canvas

variable [Scalar W] [Scalar N] [Narrowing W N]

theorem adopt_shows (v : View W N) (loaded : Loaded) :
    (v.adopt loaded).outcome = .loaded loaded.snapshot ∧ (v.adopt loaded).groups = loaded.groups ∧
      (v.adopt loaded).interaction = (v.interaction.adopt loaded.snapshot loaded.groups).1 ∧
      ∃ canvas, v.canvas.SameNodes canvas ∧ (v.adopt loaded).canvas = canvas.load loaded.snapshot := by
  rw [adopt]
  obtain ⟨interaction, aim⟩ := v.interaction.adopt loaded.snapshot loaded.groups
  cases aim with
  | none => exact ⟨rfl, rfl, rfl, v.canvas, .refl _, rfl⟩
  | some aim => exact ⟨rfl, rfl, rfl, v.canvas.obey aim, v.canvas.sameNodes_obey aim, rfl⟩

end View

namespace Session

variable {s next : Session W N} {e : Event W}

/-- Another route leaves the focus alone, or drops it with the collection that was shown. -/
theorem entered_focus (s : Session W N) (route : Option String) :
    s.view.SameFocus (s.entered route).view ∨ s.view.Drops (s.entered route).view := by
  let routed : View W N := { s.view with route := route }
  have read := routed.arrived.sameFocus_refresh
  rcases routed.arrived_cases with ⟨arrived, _⟩ | arrived
  · have shown : s.view.SameFocus routed.arrived := by
      rw [arrived]
      exact ⟨rfl, rfl, rfl, rfl⟩
    exact .inl (shown.trans read)
  · rw [arrived] at read
    refine .inr ⟨?_, ?_, ?_⟩
    · exact (congrArg (·.refresh.1.outcome) arrived).trans read.outcome
    · exact (congrArg (·.refresh.1.interaction) arrived).trans read.interaction
    · exact (congrArg (·.refresh.1.canvas) arrived).trans read.canvas

variable [Scalar W] [Scalar N] [Narrowing W N]

/-- Only the end of the newest call for a graph touches the focus. -/
theorem ended_focus (s : Session W N) (call : Call) (answer : Option Reply) :
    s.view.SameFocus (s.ended call answer).view ∨
      ∃ collection ticket, call = .graph collection ticket ∧ s.view.graphTickets.isCurrent ticket = true ∧
        (s.ended call answer).view = s.view.settle (s.view.client.graph collection s.view.access answer).1 := by
  cases call with
  | graph collection ticket =>
    have view := s.ended_graph collection ticket answer
    split at view
    · exact .inr ⟨collection, ticket, rfl, ‹_›, view⟩
    · rw [view]
      exact .inl ⟨rfl, rfl, rfl, rfl⟩
  | suggestions collection ticket =>
    refine .inl ?_
    rw [ended_suggestions]
    split
    · cases (s.view.client.suggestions collection answer).1 <;> exact ⟨rfl, rfl, rfl, rfl⟩
    · exact ⟨rfl, rfl, rfl, rfl⟩
  | action collection suggestion action =>
    obtain ⟨_, _, _, _, view⟩ := s.ended_action collection suggestion action answer
    rw [view]
    exact .inl ⟨rfl, rfl, rfl, rfl⟩

/-- What a step can do to the focus: apart from a glance around and another collection, only the reply to
the newest call for a graph touches it. -/
theorem Effect.focus (effect : Effect s e next) :
    s.view.Glance next.view ∨ s.view.SameFocus next.view ∨ s.view.Drops next.view ∨
      ∃ collection ticket answer, e = .reply (.graph collection ticket) answer ∧
        .graph collection ticket ∈ s.waiting ∧ s.view.graphTickets.isCurrent ticket = true ∧
        next.view = s.view.settle (s.view.client.graph collection s.view.access answer).1 := by
  cases effect with
  | glances glance => exact .inl glance
  | refreshes => exact .inr (.inl s.view.sameFocus_refresh)
  | answers _ => exact .inr (.inl (s.view.sameFocus_answer _ _))
  | @enters route _ => exact .inr ((s.entered_focus route).imp_right .inl)
  | @ends call answer waiting =>
    rcases s.ended_focus call answer with same | ⟨collection, ticket, rfl, current, view⟩
    · exact .inr (.inl same)
    · exact .inr (.inr (.inr ⟨collection, ticket, answer, rfl, waiting, current, view⟩))

end Session

/-! ## In step with the snapshot -/

namespace View

variable {v w : View W N}

/-- The focus is settled in the snapshot that is shown, and the groups and the canvas are made of it. While
nothing is shown the focus is settled in some snapshot all the same. -/
structure InStep (v : View W N) : Prop where
  settled : ∃ s, v.interaction.Settled s ∧ ∀ {shown}, v.snapshot? = some shown → shown = s
  groups : ∀ {s}, v.snapshot? = some s → v.groups = .ofSnapshot s
  places : ∀ {s l}, v.snapshot? = some s → v.canvas.layout = some l → l.ids = s.nodes.map Node.id

theorem InStep.settledIn (h : InStep v) {s : Snapshot} (shown : v.snapshot? = some s) :
    v.interaction.Settled s := by
  obtain ⟨other, settled, same⟩ := h.settled
  cases same shown
  exact settled

theorem outcome_of_snapshot? {s : Snapshot} (shown : v.snapshot? = some s) : v.outcome = .loaded s := by
  rw [View.snapshot?] at shown
  cases outcome : v.outcome with
  | loaded other =>
    rw [outcome] at shown
    cases shown
    rfl
  | pending => simp [outcome, Outcome.snapshot?] at shown
  | failed failure => simp [outcome, Outcome.snapshot?] at shown

/-- With nothing shown, only the focus counts. -/
theorem inStep_of_none {s : Snapshot} (nothing : v.snapshot? = none) (settled : v.interaction.Settled s) :
    InStep v := by
  refine ⟨⟨s, settled, ?_⟩, ?_, ?_⟩
  all_goals
    intros
    simp_all

theorem InStep.contained (h : InStep v) {s : Snapshot} {id : NodeId} (shown : v.snapshot? = some s)
    (known : v.Knows s id) : s.contains id = true := by
  rcases known with contained | ⟨l, present, member⟩
  · exact contained
  · rw [h.places shown present] at member
    obtain ⟨n, node, rfl⟩ := List.mem_map.1 member
    exact (s.contains_iff n.id).2 ⟨n, node, rfl⟩

/-- With the same snapshot and the same nodes on the canvas only the focus has to be looked at. -/
theorem InStep.of_looks (h : InStep v) (looks : Looks v w)
    (canvas : ∀ {l}, w.canvas.layout = some l → ∃ before, v.canvas.layout = some before ∧ l.ids = before.ids)
    (settled : ∀ {s}, v.interaction.Settled s → (∀ {shown}, v.snapshot? = some shown → shown = s) →
      w.interaction.Settled s) : InStep w := by
  have same := snapshot?_of_looks looks
  refine ⟨?_, ?_, ?_⟩
  · obtain ⟨s, before, only⟩ := h.settled
    refine ⟨s, settled before only, ?_⟩
    rw [same]
    exact only
  · intro s shown
    exact looks.groups.trans (h.groups (same ▸ shown))
  · intro s l shown present
    obtain ⟨before, was, ids⟩ := canvas present
    exact ids.trans (h.places (same ▸ shown) was)

theorem ids_of_sameNodes {c d : Canvas W N} (same : c.SameNodes d) {l : Layout W N}
    (present : d.layout = some l) : ∃ before, c.layout = some before ∧ l.ids = before.ids := by
  obtain ⟨before, was, ids, _⟩ := same.before present
  exact ⟨before, was, ids⟩

theorem InStep.glance (h : InStep v) (glance : Glance v w) : InStep w := by
  cases glance with
  | rests rests =>
    refine h.of_looks rests.toLooks (ids_of_sameNodes rests.canvas) fun settled _ => ?_
    rw [rests.interaction]
    exact settled
  | toggles key looks toggled canvas =>
    refine h.of_looks looks (ids_of_sameNodes canvas) fun settled _ => ?_
    rw [toggled]
    exact settled.toggleType key
  | selects target looks shown known selected canvas =>
    refine h.of_looks looks (ids_of_sameNodes canvas) fun _ only => ?_
    cases only shown
    rw [selected]
    cases target with
    | none => exact Interaction.settled_select_none
    -- the click itself does not look the node up: that it exists rests on the canvas being in step
    | some id => exact Interaction.settled_select_some (h.contained shown (known rfl))
  | @hovers l target looks present known hovered next =>
    refine h.of_looks looks ?_ fun settled only => ?_
    · obtain ⟨l', isNext, ids, _⟩ := next
      intro l'' present'
      cases isNext.symm.trans present'
      exact ⟨l, present, ids⟩
    · rw [hovered, hover]
      split
      · exact settled
      · rename_i s shown
        cases only shown
        exact settled.hover fun isNode => h.contained shown (.inr ⟨l, present, known isNode⟩)

variable [Scalar W] [Scalar N] [Narrowing W N]

theorem inStep_adopt (v : View W N) {loaded : Loaded} (groups : loaded.groups = .ofSnapshot loaded.snapshot) :
    InStep (v.adopt loaded) := by
  obtain ⟨outcome, sameGroups, interaction, canvas, _, laid⟩ := v.adopt_shows loaded
  have shown : (v.adopt loaded).snapshot? = some loaded.snapshot := congrArg Outcome.snapshot? outcome
  refine ⟨⟨loaded.snapshot, ?_, ?_⟩, ?_, ?_⟩
  · rw [interaction]
    exact Interaction.settled_adopt _ _ _
  · intro other same
    exact (Option.some.inj (shown.symm.trans same)).symm
  · intro s same
    cases shown.symm.trans same
    rw [sameGroups, groups]
  · intro s l same present
    cases shown.symm.trans same
    rw [laid, Canvas.load, Canvas.withLayout] at present
    obtain ⟨before, _, rfl⟩ := Option.map_eq_some_iff.1 present
    exact before.ids_load loaded.snapshot

theorem InStep.settle (h : InStep v) {result : Except Failure Loaded}
    (read : ∀ {loaded}, result = .ok loaded → loaded.groups = .ofSnapshot loaded.snapshot) :
    InStep (v.settle result) := by
  cases result with
  | ok loaded => exact inStep_adopt v (read rfl)
  | error failure =>
    obtain ⟨s, settled, _⟩ := h.settled
    exact inStep_of_none rfl settled

end View

namespace Session

variable {s next : Session W N} {e : Event W} {config : Config} {access : Access} {route : Option String}
  {site : Site W} {events : List (Event W)}

variable [Scalar W] [Scalar N] [Narrowing W N]

theorem inStep_effect (h : s.view.InStep) (effect : Effect s e next) : next.view.InStep := by
  rcases effect.focus with glance | same | drops | ⟨collection, ticket, answer, _, _, _, view⟩
  · exact h.glance glance
  · have shown := View.snapshot?_congr same.outcome
    refine ⟨?settled, ?groups, ?places⟩
    case settled =>
      rw [shown, same.interaction]
      exact h.settled
    case groups =>
      rw [shown, same.groups]
      exact h.groups
    case places =>
      rw [shown, same.canvas]
      exact h.places
  · refine View.inStep_of_none (s := .empty) (congrArg Outcome.snapshot? drops.outcome) ?_
    rw [drops.interaction]
    exact Interaction.settled_initial .empty
  · rw [view]
    exact h.settle Client.groups_of_graph

/-- What is shown of a snapshot in the view: its groups, and a focus with what it highlights. -/
structure FocusedIn (v : View W N) (s : Snapshot) : Prop where
  groups : v.groups = .ofSnapshot s
  /-- The active or hovered node is one of the snapshot. -/
  contained : ∀ {id}, v.interaction.focus.node? = some id → s.contains id = true
  /-- With a node in focus no link is hovered, -/
  unlinked : ∀ {id}, v.interaction.focus.node? = some id → v.interaction.hoveredLink = none
  /-- the highlighted links are the edges at that node that have both ends, -/
  links : ∀ {id}, v.interaction.focus.node? = some id → ∀ i, i ∈ v.interaction.highlightedLinks ↔
    ∃ e, s.edges[i]? = some e ∧ s.isResolved e = true ∧ (e.source = id ∨ e.target = id)
  /-- and the highlighted nodes are that node and the opposite ends of those edges. -/
  nodes : ∀ {id}, v.interaction.focus.node? = some id → ∀ other, other ∈ v.interaction.highlightedNodes ↔
    other = id ∨ ∃ e ∈ s.edges, s.isResolved e = true ∧
      ((e.source = id ∧ e.target = other) ∨ (e.target = id ∧ e.source = other))
  /-- Without one at most the hovered link is highlighted, -/
  unfocused : v.interaction.focus.node? = none →
    v.interaction.highlightedNodes = [] ∧ v.interaction.highlightedLinks = v.interaction.hoveredLink.toList
  /-- which is an edge that has both ends. -/
  resolved : ∀ {i}, v.interaction.hoveredLink = some i →
    ∃ e, s.edges[i]? = some e ∧ s.isResolved e = true

theorem inStep_run (run : Run (mount config access route site) events s) : s.view.InStep := by
  refine run.keeps (·.view.InStep) ?_ fun h step => inStep_effect h step.effect
  obtain ⟨_, _, _, _, view⟩ := mount_view (N := N) config access route site
  rw [view]
  exact View.inStep_of_none rfl (Interaction.settled_initial .empty)

/-- Whatever happens, the groups and the focus are those of the snapshot that is shown. -/
theorem focused_in_shown (run : Run (mount config access route site) events s) {snapshot : Snapshot}
    (shown : s.view.outcome = .loaded snapshot) : FocusedIn s.view snapshot := by
  have inStep := inStep_run run
  have isShown : s.view.snapshot? = some snapshot := congrArg Outcome.snapshot? shown
  have settled := inStep.settledIn isShown
  exact {
    groups := inStep.groups isShown
    contained := settled.contained
    unlinked := settled.unlinked
    links := fun focused _ => settled.links_iff focused
    nodes := fun focused _ => settled.nodes_iff focused
    unfocused := settled.unfocused
    resolved := settled.resolved }

/-- Two nodes with a link, for closed runs. -/
def linkedPair : Option Reply :=
  some (.response 200
    "[[\x7b\"id\":\"a\"\x7d,\x7b\"id\":\"b\"\x7d],[\x7b\"source\":\"a\",\"target\":\"b\"\x7d]]")

/-- One of two linked nodes is picked from the list that the search finds. -/
theorem focused_in_shown_picked : ∃ (s : Session Float Float32) (snapshot : Snapshot),
    FocusedIn s.view snapshot ∧ s.view.interaction.focus = .active "a" ∧
      s.view.interaction.highlightedNodes = ["a", "b"] := by
  let start : Session Float Float32 := mount {} .owned (some "A") ⟨none, ⟨0, 0⟩, false⟩
  have focused {events} {s : Session Float Float32} (run : Run start events s)
      (loaded : s.view.snapshot?.isSome = true) : ∃ snapshot, FocusedIn s.view snapshot := by
    obtain ⟨snapshot, shown⟩ := Option.isSome_iff_exists.1 loaded
    exact ⟨snapshot, focused_in_shown run (View.outcome_of_snapshot? shown)⟩
  have nothing : Run start [] start := .nil
  have loaded := nothing.snoc (.reply (.graph collectionA ⟨1⟩) linkedPair (by decide +kernel))
  have opened := loaded.snoc (.use (m := .toggleSearch) (by decide +kernel))
  have picked := opened.snoc (.use (m := .pick "a") (by decide +kernel))
  obtain ⟨snapshot, shown⟩ := focused picked (by decide +kernel)
  exact ⟨_, snapshot, shown, by decide +kernel, by decide +kernel⟩

end Session

end GraphViewer

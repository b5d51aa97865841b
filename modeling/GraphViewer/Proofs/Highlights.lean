import Mathlib.Data.List.Basic
import GraphViewer.Interaction
/-
What is highlighted follows from the focus. An interaction is settled in a snapshot if its focus and the link
under the pointer exist there and nothing is highlighted but what they highlight; selecting, hovering and
going over to another snapshot keep it settled.
-/

namespace GraphViewer

/-- The edges at a node with both ends, and the node at the other end of each. -/
theorem Snapshot.mem_incident {s : Snapshot} {id other : NodeId} {i : EdgeIndex} :
    (i, other) ∈ s.incident id ↔
      ∃ e, s.edges[i]? = some e ∧ s.isResolved e = true ∧ e.otherEnd? id = some other := by
  rw [incident, List.mem_filterMap]
  constructor
  · rintro ⟨⟨e, j⟩, member, kept⟩
    by_cases resolved : s.isResolved e = true
    · obtain ⟨o, isOther, same⟩ : ∃ o, e.otherEnd? id = some o ∧ (j, o) = (i, other) := by
        simpa [resolved] using kept
      cases same
      exact ⟨e, List.mk_mem_zipIdx_iff_getElem?.1 member, resolved, isOther⟩
    · simp [resolved] at kept
  · rintro ⟨e, present, resolved, isOther⟩
    exact ⟨(e, i), List.mk_mem_zipIdx_iff_getElem?.2 present, by simp [resolved, isOther]⟩

theorem Edge.otherEnd?_eq_some_iff {e : Edge} {id other : NodeId} :
    e.otherEnd? id = some other ↔
      (e.source = id ∧ e.target = other) ∨ (e.target = id ∧ e.source = other) := by
  unfold otherEnd?
  constructor
  · intro found
    split at found
    · exact .inl ⟨‹_›, Option.some.inj found⟩
    · split at found
      · exact .inr ⟨‹_›, Option.some.inj found⟩
      · cases found
  · rintro (⟨rfl, rfl⟩ | ⟨rfl, rfl⟩)
    · simp
    -- an edge from a node to itself is found by its source, which gives the same end
    · by_cases loop : e.source = e.target
      · simp [loop]
      · simp [loop]

namespace Interaction

/-- The focus and the hovered link exist in the snapshot, and what is highlighted follows from them. -/
structure Settled (x : Interaction) (s : Snapshot) : Prop where
  contained : ∀ {id}, x.focus.node? = some id → s.contains id = true
  unlinked : ∀ {id}, x.focus.node? = some id → x.hoveredLink = none
  resolved : ∀ {i}, x.hoveredLink = some i → ∃ e, s.edges[i]? = some e ∧ s.isResolved e = true
  highlighted : x.highlight s = x

variable {x : Interaction} {s : Snapshot} {id : NodeId}

theorem activeNode?_eq_some_iff {id : NodeId} : x.activeNode? = some id ↔ x.focus = .active id := by
  cases focus : x.focus <;> simp [activeNode?, focus]

theorem inactive_iff : x.activeNode? = none ↔ ∀ id, x.focus ≠ .active id := by
  cases focus : x.focus <;> simp [activeNode?, focus]

@[simp] theorem highlight_focus : (x.highlight s).focus = x.focus := by
  unfold highlight
  split <;> rfl

@[simp] theorem highlight_hoveredLink : (x.highlight s).hoveredLink = x.hoveredLink := by
  unfold highlight
  split <;> rfl

theorem highlight_highlight : (x.highlight s).highlight s = x.highlight s := by
  cases focus : x.focus.node? <;> simp [highlight, focus]

/-- A focus that exists, with its highlights. -/
theorem settled_highlight (contained : ∀ {id}, x.focus.node? = some id → s.contains id = true)
    (unlinked : ∀ {id}, x.focus.node? = some id → x.hoveredLink = none)
    (resolved : ∀ {i}, x.hoveredLink = some i → ∃ e, s.edges[i]? = some e ∧ s.isResolved e = true) :
    (x.highlight s).Settled s := by
  refine ⟨?_, ?_, ?_, highlight_highlight⟩
  · rw [highlight_focus]
    exact contained
  · rw [highlight_focus, highlight_hoveredLink]
    exact unlinked
  · rw [highlight_hoveredLink]
    exact resolved

theorem settled_initial (s : Snapshot) : initial.Settled s :=
  ⟨nofun, nofun, nofun, rfl⟩

/-! ## What is highlighted -/

section

variable (lit : x.highlight s = x) (focused : x.focus.node? = some id)

include lit focused

theorem mem_highlightedLinks_iff {i : EdgeIndex} : i ∈ x.highlightedLinks ↔
    ∃ e, s.edges[i]? = some e ∧ s.isResolved e = true ∧ (e.source = id ∨ e.target = id) := by
  rw [← lit, highlight, focused]
  constructor
  · intro member
    obtain ⟨⟨_, other⟩, incident, rfl⟩ := List.mem_map.1 member
    obtain ⟨e, present, resolved, isOther⟩ := Snapshot.mem_incident.1 incident
    refine ⟨e, present, resolved, ?_⟩
    exact (Edge.otherEnd?_eq_some_iff.1 isOther).imp And.left And.left
  · rintro ⟨e, present, resolved, isEnd⟩
    obtain ⟨other, isOther⟩ : ∃ other, e.otherEnd? id = some other := by
      rcases isEnd with source | target
      · exact ⟨e.target, Edge.otherEnd?_eq_some_iff.2 (.inl ⟨source, rfl⟩)⟩
      · exact ⟨e.source, Edge.otherEnd?_eq_some_iff.2 (.inr ⟨target, rfl⟩)⟩
    exact List.mem_map.2 ⟨(i, other), Snapshot.mem_incident.2 ⟨e, present, resolved, isOther⟩, rfl⟩

theorem mem_highlightedNodes_iff {other : NodeId} : other ∈ x.highlightedNodes ↔
    other = id ∨ ∃ e ∈ s.edges, s.isResolved e = true ∧
      ((e.source = id ∧ e.target = other) ∨ (e.target = id ∧ e.source = other)) := by
  rw [← lit, highlight, focused]
  refine List.mem_eraseDups.trans (List.mem_cons.trans (or_congr_right ?_))
  constructor
  · intro member
    obtain ⟨⟨i, _⟩, incident, rfl⟩ := List.mem_map.1 member
    obtain ⟨e, present, resolved, isOther⟩ := Snapshot.mem_incident.1 incident
    exact ⟨e, List.mem_of_getElem? present, resolved, Edge.otherEnd?_eq_some_iff.1 isOther⟩
  · rintro ⟨e, member, resolved, isOther⟩
    obtain ⟨i, present⟩ := List.getElem?_of_mem member
    have incident := Snapshot.mem_incident.2 ⟨e, present, resolved, Edge.otherEnd?_eq_some_iff.2 isOther⟩
    exact List.mem_map.2 ⟨(i, other), incident, rfl⟩

end

theorem highlights_of_unfocused (lit : x.highlight s = x) (free : x.focus.node? = none) :
    x.highlightedNodes = [] ∧ x.highlightedLinks = x.hoveredLink.toList := by
  rw [highlight, free] at lit
  exact ⟨(congrArg highlightedNodes lit).symm, (congrArg highlightedLinks lit).symm⟩

theorem Settled.links_iff (settled : x.Settled s) (focused : x.focus.node? = some id) {i : EdgeIndex} :
    i ∈ x.highlightedLinks ↔
      ∃ e, s.edges[i]? = some e ∧ s.isResolved e = true ∧ (e.source = id ∨ e.target = id) :=
  mem_highlightedLinks_iff settled.highlighted focused

theorem Settled.nodes_iff (settled : x.Settled s) (focused : x.focus.node? = some id) {other : NodeId} :
    other ∈ x.highlightedNodes ↔ other = id ∨ ∃ e ∈ s.edges, s.isResolved e = true ∧
      ((e.source = id ∧ e.target = other) ∨ (e.target = id ∧ e.source = other)) :=
  mem_highlightedNodes_iff settled.highlighted focused

theorem Settled.unfocused (settled : x.Settled s) (free : x.focus.node? = none) :
    x.highlightedNodes = [] ∧ x.highlightedLinks = x.hoveredLink.toList :=
  highlights_of_unfocused settled.highlighted free

/-! ## Selecting, hovering and new snapshots -/

theorem highlight_select (id : Option NodeId) : (x.select s id).1.highlight s = (x.select s id).1 := by
  cases id with
  | none => exact highlight_highlight (x := { x with focus := .none, hoveredLink := none })
  | some id => exact highlight_highlight (x := { x with focus := .active id, hoveredLink := none })

theorem settled_select_some (contained : s.contains id = true) : (x.select s (some id)).1.Settled s := by
  refine settled_highlight (x := { x with focus := .active id, hoveredLink := none }) ?_ ?_ ?_
  · rintro _ ⟨⟩
    exact contained
  · intro _ _
    rfl
  · nofun

theorem settled_select_none : (x.select s none).1.Settled s := by
  refine settled_highlight (x := { x with focus := .none, hoveredLink := none }) ?_ ?_ ?_
  all_goals nofun

theorem highlight_toggleType (key : EntityKey) :
    (x.toggleType key).highlight s = (x.highlight s).toggleType key := by
  cases focus : x.focus.node? with
  | none => simp [highlight, focus, toggleType]
  | some id => simp [highlight, focus, toggleType]

theorem Settled.toggleType (settled : x.Settled s) (key : EntityKey) : (x.toggleType key).Settled s := by
  refine ⟨settled.contained, settled.unlinked, settled.resolved, ?_⟩
  rw [highlight_toggleType, settled.highlighted]

/-- While no node is active, the focus and the link that the pointer leads to. -/
def led (s : Snapshot) : Hover → Focus × Option EdgeIndex
  | .nothing => (.none, none)
  | .node id => (.hovered id, none)
  | .link i => (.none, if s.edges[i]?.any s.isResolved then some i else none)

theorem hover_of_active (active : x.focus = .active id) (target : Hover) : x.hover s target = x := by
  simp [hover, active]

theorem hover_of_inactive (inactive : ∀ id, x.focus ≠ .active id) (target : Hover) :
    x.hover s target =
      if (led s target).1 = x.focus ∧ (led s target).2 = x.hoveredLink then x
      else { x with focus := (led s target).1, hoveredLink := (led s target).2 }.highlight s := by
  unfold hover
  split
  · exact absurd ‹_› (inactive _)
  · cases target <;> rfl

/-- Hovering changes nothing, or without an active node takes over what the pointer leads to. -/
theorem hover_cases (x : Interaction) (s : Snapshot) (target : Hover) :
    x.hover s target = x ∨ ((∀ id, x.focus ≠ .active id) ∧ x.hover s target =
      { x with focus := (led s target).1, hoveredLink := (led s target).2 }.highlight s) := by
  cases isActive : x.activeNode? with
  | some id => exact .inl (hover_of_active (activeNode?_eq_some_iff.1 isActive) target)
  | none =>
    have inactive := inactive_iff.1 isActive
    rw [hover_of_inactive inactive]
    split
    · exact .inl rfl
    · exact .inr ⟨inactive, rfl⟩

theorem highlight_hover (lit : x.highlight s = x) (target : Hover) :
    (x.hover s target).highlight s = x.hover s target := by
  rcases x.hover_cases s target with same | ⟨_, led⟩
  · rw [same, lit]
  · rw [led, highlight_highlight]

/-- Hovering neither makes a node active nor takes an active one away. -/
theorem hover_activeNode? (x : Interaction) (s : Snapshot) (target : Hover) :
    (x.hover s target).activeNode? = x.activeNode? := by
  rcases x.hover_cases s target with same | ⟨inactive, led⟩
  · rw [same]
  · rw [led, inactive_iff.2 inactive, inactive_iff, highlight_focus]
    cases target <;> exact nofun

/-- The node that the pointer rests on must exist; whether a link does is looked up. -/
theorem Settled.hover (settled : x.Settled s) {target : Hover}
    (contained : ∀ {id}, target = .node id → s.contains id = true) : (x.hover s target).Settled s := by
  by_cases active : ∃ id, x.focus = .active id
  · obtain ⟨id, focus⟩ := active
    rw [hover_of_active focus]
    exact settled
  · rw [hover_of_inactive fun id focus => active ⟨id, focus⟩]
    split
    · exact settled
    · refine settled_highlight ?_ ?_ ?_
      · intro id focused
        cases target with
        | node other =>
          cases focused
          exact contained rfl
        | nothing => cases focused
        | link i => cases focused
      · intro id focused
        cases target with
        | node other => rfl
        | nothing => rfl
        | link i => cases focused
      · intro i hovered
        cases target with
        | node other => cases hovered
        | nothing => cases hovered
        | link j =>
          obtain ⟨resolved, rfl⟩ : s.edges[j]?.any s.isResolved = true ∧ j = i := by
            simpa [led] using hovered
          obtain ⟨e, present, isResolved⟩ := (Option.any_eq_true _ _).1 resolved
          exact ⟨e, present, isResolved⟩

/-- A focus that the snapshot lacks is dropped. -/
theorem keepFocus_contained {focus : Focus} (focused : (keepFocus s focus).1.node? = some id) :
    s.contains id = true := by
  cases focus with
  | none => cases focused
  | active other =>
    by_cases contained : s.contains other = true
    · simp [keepFocus, contained, Focus.node?] at focused
      exact focused ▸ contained
    · simp [keepFocus, contained, Focus.node?] at focused
  | hovered other =>
    by_cases contained : s.contains other = true
    · simp [keepFocus, contained, Focus.node?] at focused
      exact focused ▸ contained
    · simp [keepFocus, contained, Focus.node?] at focused

/-- A new snapshot makes no node active. -/
theorem active_of_keepFocus {focus : Focus} {id : NodeId} (active : (keepFocus s focus).1 = .active id) :
    focus = .active id := by
  cases focus with
  | active other =>
    rw [keepFocus] at active
    split at active
    · exact active
    · cases active
  | none => cases active
  | hovered other =>
    rw [keepFocus] at active
    split at active <;> cases active

/-- Whatever was highlighted before, a new snapshot settles it. -/
theorem settled_adopt (x : Interaction) (s : Snapshot) (g : Groups) : (x.adopt s g).1.Settled s := by
  refine settled_highlight ?_ ?_ ?_
  · exact keepFocus_contained
  · intro _ _
    rfl
  · nofun

end Interaction

end GraphViewer

import GraphViewer.Proofs.Focus
import GraphViewer.Proofs.NewestCall
/-
What becomes of a hover when the pointer leaves the canvas. The canvas remembers what the pointer rested on,
and tells the view when that is over; but a graph that is read makes the canvas forget it while the view
keeps a hovered node, and without a graph the view does not listen. In exactly these cases the pointer leaves
and the hover stays.
-/

namespace GraphViewer

namespace Interaction

/-- The pointer has put a node or a link in focus. -/
def Hovers (x : Interaction) : Prop :=
  x.hoveredNode? ≠ none ∨ x.hoveredLink ≠ none

/-- Nothing is hovered, and nothing is highlighted unless a node is active. -/
structure HoverGone (x : Interaction) : Prop where
  node : x.hoveredNode? = none
  link : x.hoveredLink = none
  highlights : x.activeNode? = none → x.highlightedNodes = [] ∧ x.highlightedLinks = []

variable {x : Interaction} {s : Snapshot}

theorem hoverGone_iff (settled : x.Settled s) : x.HoverGone ↔ ¬ x.Hovers := by
  constructor
  · rintro gone (node | link)
    · exact node gone.node
    · exact link gone.link
  · intro still
    obtain ⟨node, link⟩ := not_or.1 still
    have node := not_not.1 node
    have link := not_not.1 link
    refine ⟨node, link, fun inactive => ?_⟩
    have free : x.focus.node? = none := by
      cases focus : x.focus with
      | none => rfl
      | active id => simp [activeNode?, focus] at inactive
      | hovered id => simp [hoveredNode?, focus] at node
    obtain ⟨nodes, links⟩ := settled.unfocused free
    exact ⟨nodes, by rw [links, link]; rfl⟩

theorem not_hovers_select (target : Option NodeId) : ¬ (x.select s target).1.Hovers := by
  cases target with
  | none => simp [Hovers, select, hoveredNode?]
  | some id => simp [Hovers, select, hoveredNode?]

/-- Leaving everything ends a hover. -/
theorem not_hovers_nothing (settled : x.Settled s) (t : Snapshot) : ¬ (x.hover t .nothing).Hovers := by
  by_cases active : ∃ id, x.focus = .active id
  · obtain ⟨id, focus⟩ := active
    have unlinked : x.hoveredLink = none := settled.unlinked (congrArg Focus.node? focus)
    rw [hover_of_active focus]
    simp [Hovers, hoveredNode?, focus, unlinked]
  · rw [hover_of_inactive fun id focus => active ⟨id, focus⟩]
    split
    · rename_i same
      simp [Hovers, hoveredNode?, ← same.1, ← same.2, led]
    · simp [Hovers, hoveredNode?, led]

/-- A new snapshot leaves only a hovered node, and only if it has that node. -/
theorem hovers_adopt_iff (x : Interaction) (s : Snapshot) (g : Groups) :
    (x.adopt s g).1.Hovers ↔ ∃ id, x.hoveredNode? = some id ∧ s.contains id = true := by
  have link : (x.adopt s g).1.hoveredLink = none := highlight_hoveredLink
  have focus : (x.adopt s g).1.focus = (keepFocus s x.focus).1 := highlight_focus
  rw [Hovers, link, hoveredNode?, focus]
  cases isFocus : x.focus with
  | none => simp [keepFocus, hoveredNode?, isFocus]
  | active id =>
    by_cases contained : s.contains id = true
    · simp [keepFocus, contained, hoveredNode?, isFocus]
    · simp [keepFocus, contained, hoveredNode?, isFocus]
  | hovered id =>
    by_cases contained : s.contains id = true
    · simp [keepFocus, contained, hoveredNode?, isFocus]
    · simp [keepFocus, contained, hoveredNode?, isFocus]

end Interaction

/-! ## A hover that the canvas cannot end -/

variable {W N : Type}

namespace View

variable {v w : View W N}

/-- Something is hovered, but the view does not listen, or the canvas has forgotten it. -/
def Stranded (v : View W N) : Prop :=
  v.interaction.Hovers ∧
    (v.snapshot? = none ∨ ∀ {l}, v.canvas.layout = some l → l.pointer = .nothing)

/-- Without a layout nothing is ever hovered. -/
def Grounded (v : View W N) : Prop :=
  v.canvas.layout = none → ¬ v.interaction.Hovers

theorem not_hovers_hover_nothing (inStep : v.InStep) {s : Snapshot} (shown : v.snapshot? = some s) :
    ¬ (v.hover .nothing).interaction.Hovers := by
  rw [hover, shown]
  exact Interaction.not_hovers_nothing (inStep.settledIn shown) s

theorem layout_eq_none_iff {c d : Canvas W N} (same : c.SameNodes d) : c.layout = none ↔ d.layout = none := by
  rw [Canvas.SameNodes] at same
  generalize c.layout = before, d.layout = after at same ⊢
  cases same with
  | none => exact Iff.rfl
  | some _ => simp

theorem Grounded.glance (h : v.Grounded) (glance : Glance v w) : w.Grounded := by
  intro absent
  cases glance with
  | rests rests =>
    rw [rests.interaction]
    exact h ((layout_eq_none_iff rests.canvas).2 absent)
  | toggles key _ toggled canvas =>
    rw [toggled]
    exact h ((layout_eq_none_iff canvas).2 absent)
  | selects target _ _ _ selected _ =>
    rw [selected]
    exact Interaction.not_hovers_select target
  | hovers _ _ _ _ next =>
    obtain ⟨l, present, _⟩ := next
    cases present.symm.trans absent

/-- With the same pointer on the canvas it makes no difference. -/
theorem silent_of_sameNodes {c d : Canvas W N} (same : c.SameNodes d)
    (silent : ∀ {l}, d.layout = some l → l.pointer = .nothing) :
    ∀ {l}, c.layout = some l → l.pointer = .nothing := by
  intro l present
  obtain ⟨next, after, _, pointer⟩ := same.after present
  exact pointer.symm.trans (silent after)

/-- Glancing around strands no hover. -/
theorem not_stranded_glance (inStep : v.InStep) (free : ¬ v.Stranded) (glance : Glance v w) :
    ¬ w.Stranded := by
  have shown := snapshot?_of_looks glance.looks
  rintro ⟨hovers, silent⟩
  rw [shown] at silent
  cases glance with
  | rests rests =>
    rw [rests.interaction] at hovers
    exact free ⟨hovers, silent.imp_right (silent_of_sameNodes rests.canvas)⟩
  | toggles key _ toggled canvas =>
    rw [toggled] at hovers
    exact free ⟨hovers, silent.imp_right (silent_of_sameNodes canvas)⟩
  | selects target _ _ _ selected _ =>
    rw [selected] at hovers
    exact Interaction.not_hovers_select target hovers
  | @hovers l target looks present _ hovered next =>
    obtain ⟨l', isNext, _, pointer⟩ := next
    rw [hovered] at hovers
    cases isShown : v.snapshot? with
    | none =>
      rw [hover, isShown] at hovers
      exact free ⟨hovers, .inl isShown⟩
    | some s =>
      rcases silent with unshown | forgot
      · cases isShown.symm.trans unshown
      · -- the canvas has just been told of this target, so it is nothing
        have nothing : target = .nothing := pointer.symm.trans (forgot isNext)
        rw [nothing] at hovers
        exact not_hovers_hover_nothing inStep isShown hovers

variable [Scalar W] [Scalar N] [Narrowing W N]

theorem leave_interaction (v : View W N) : (v.point .leave).view.interaction =
    match v.canvas.layout with
    | none => v.interaction
    | some l => if l.pointer = .nothing then v.interaction else (v.hover .nothing).interaction := by
  unfold point
  cases v.canvas.layout with
  | none => rfl
  | some l =>
    dsimp only
    rw [pointOn_leave]
    by_cases idle : l.pointer = .nothing
    · simp [Layout.pointerLeave, idle, quiet, withLayout]
    · simp [Layout.pointerLeave, idle, quiet, hover_withLayout]

/-- After the pointer has left, exactly a stranded hover is still there. -/
theorem hovers_leave_iff (inStep : v.InStep) (grounded : v.Grounded) :
    (v.point .leave).view.interaction.Hovers ↔ v.Stranded := by
  rw [leave_interaction]
  cases layout : v.canvas.layout with
  | none =>
    refine iff_of_false (grounded layout) fun stranded => ?_
    exact grounded layout stranded.1
  | some l =>
    dsimp only
    by_cases idle : l.pointer = .nothing
    · rw [if_pos idle]
      refine ⟨fun hovers => ⟨hovers, .inr ?_⟩, And.left⟩
      intro other present
      cases layout.symm.trans present
      exact idle
    · rw [if_neg idle]
      cases shown : v.snapshot? with
      | none =>
        rw [hover, shown]
        exact ⟨fun hovers => ⟨hovers, .inl shown⟩, And.left⟩
      | some s =>
        refine iff_of_false (not_hovers_hover_nothing inStep shown) ?_
        rintro ⟨_, silent | forgot⟩
        · cases shown.symm.trans silent
        · exact idle (forgot layout)

theorem Grounded.settle (h : v.Grounded) (result : Except Failure Loaded) : (v.settle result).Grounded := by
  intro absent
  cases result with
  | error failure => exact h absent
  | ok loaded =>
    obtain ⟨_, _, interaction, canvas, same, laid⟩ := v.adopt_shows loaded
    rw [View.settle, laid, Canvas.load, Canvas.withLayout, Option.map_eq_none_iff] at absent
    rw [View.settle, interaction, Interaction.hovers_adopt_iff]
    rintro ⟨id, hovered, _⟩
    exact h ((layout_eq_none_iff same).2 absent) (.inl (by simp [hovered]))

/-- With a new snapshot the canvas forgets the pointer. -/
theorem pointer_of_adopt {loaded : Loaded} {l : Layout W N}
    (present : (v.adopt loaded).canvas.layout = some l) : l.pointer = .nothing := by
  obtain ⟨_, _, _, canvas, _, laid⟩ := v.adopt_shows loaded
  rw [laid, Canvas.load, Canvas.withLayout] at present
  obtain ⟨before, _, rfl⟩ := Option.map_eq_some_iff.1 present
  exact before.pointer_load loaded.snapshot

theorem stranded_settle_iff (result : Except Failure Loaded) :
    (v.settle result).Stranded ↔
      match result with
      | .error _ => v.interaction.Hovers
      | .ok loaded => ∃ id, v.interaction.hoveredNode? = some id ∧ loaded.snapshot.contains id = true := by
  cases result with
  | error failure => exact ⟨And.left, fun hovers => ⟨hovers, .inl rfl⟩⟩
  | ok loaded =>
    obtain ⟨_, _, interaction, _⟩ := v.adopt_shows loaded
    rw [View.settle, Stranded, interaction, Interaction.hovers_adopt_iff]
    exact ⟨And.left, fun kept => ⟨kept, .inr pointer_of_adopt⟩⟩

end View

namespace Session

variable {s next start : Session W N} {e : Event W} {config : Config} {access : Access}
  {route : Option String} {site : Site W} {events : List (Event W)}

variable [Scalar W] [Scalar N] [Narrowing W N]

/-- The event is the end of the newest call for a graph while something is hovered, and the call fails or
brings a graph that has the hovered node. -/
def Strands (s : Session W N) (e : Event W) : Prop :=
  ∃ collection ticket answer, e = .reply (.graph collection ticket) answer ∧
    s.newestGraph? = some (collection, ticket) ∧
    match (s.view.client.graph collection s.view.access answer).1 with
    | .error _ => s.view.interaction.Hovers
    | .ok loaded =>
      ∃ id, s.view.interaction.hoveredNode? = some id ∧ loaded.snapshot.contains id = true

theorem grounded_effect (h : s.view.Grounded) (effect : Effect s e next) : next.view.Grounded := by
  rcases effect.focus with glance | same | drops | ⟨collection, ticket, answer, _, _, _, view⟩
  · exact h.glance glance
  · rw [View.Grounded, same.canvas, same.interaction]
    exact h
  · rw [View.Grounded, drops.interaction]
    rintro _ (node | link)
    · exact node rfl
    · exact link rfl
  · rw [view]
    exact h.settle _

theorem grounded_run (run : Run (mount config access route site) events s) : s.view.Grounded := by
  refine run.keeps (·.view.Grounded) ?_ fun h step => grounded_effect h step.effect
  obtain ⟨_, _, _, _, view⟩ := mount_view (N := N) config access route site
  rw [view]
  rintro _ (node | link)
  · exact node rfl
  · exact link rfl

/-- Nothing else strands a hover. -/
theorem not_stranded_effect (tidy : Tidy s) (inStep : s.view.InStep) (effect : Effect s e next)
    (free : ¬ s.view.Stranded)
    (other : ∀ {collection ticket answer}, e = .reply (.graph collection ticket) answer →
      s.newestGraph? ≠ some (collection, ticket)) : ¬ next.view.Stranded := by
  rcases effect.focus with glance | same | drops | ⟨collection, ticket, answer, isReply, waiting, current, _⟩
  · exact View.not_stranded_glance inStep free glance
  · have shown := View.snapshot?_congr same.outcome
    rw [View.Stranded, same.interaction, shown, same.canvas]
    exact free
  · rw [View.Stranded, drops.interaction]
    rintro ⟨node | link, _⟩
    · exact node rfl
    · exact link rfl
  · exact absurd ((graph_current_iff tidy.toTicketed waiting).1 current) (other isReply)

/-- A hover that is not stranded becomes so only when the newest call for a graph ends. -/
theorem stranded_step_iff (tidy : Tidy s) (inStep : s.view.InStep) (step : Step s e next)
    (free : ¬ s.view.Stranded) : next.view.Stranded ↔ Strands s e := by
  by_cases newest : ∃ collection ticket answer, e = .reply (.graph collection ticket) answer ∧
      s.newestGraph? = some (collection, ticket)
  · obtain ⟨collection, ticket, answer, rfl, isNewest⟩ := newest
    have same : next = s.ended (.graph collection ticket) answer ∧ .graph collection ticket ∈ s.waiting := by
      cases step with
      | reply _ _ waiting => exact ⟨rfl, waiting⟩
    have current := (graph_current_iff tidy.toTicketed same.2).2 isNewest
    rw [same.1, ended_graph, if_pos current, View.stranded_settle_iff]
    constructor
    · intro strands
      exact ⟨collection, ticket, answer, rfl, isNewest, strands⟩
    · rintro ⟨_, _, _, equal, _, strands⟩
      cases equal
      exact strands
  · refine iff_of_false (not_stranded_effect tidy inStep step.effect free ?_) ?_
    · intro collection ticket answer isReply isNewest
      exact newest ⟨collection, ticket, answer, isReply, isNewest⟩
    · rintro ⟨collection, ticket, answer, isReply, isNewest, _⟩
      exact newest ⟨collection, ticket, answer, isReply, isNewest⟩

/-- What becomes of a hover when the pointer leaves, after any events. -/
structure HoverEnds (start : Session W N) (events : List (Event W)) (s : Session W N) : Prop where
  /-- Once the pointer has left the hover is gone, unless it is stranded. -/
  leave : ∀ {next}, Step s (.point .leave) next → (next.view.interaction.HoverGone ↔ ¬ s.view.Stranded)
  /-- A hover is stranded only after the newest call for a graph ended while it was there, and failed or
  brought a graph with the hovered node. -/
  cause : s.view.Stranded → ∃ before e after, Passes start events before e after ∧
    ¬ before.view.Stranded ∧ Strands before e
  /-- Every such end strands it. -/
  strands : ¬ s.view.Stranded → ∀ {e next}, Step s e next → (next.view.Stranded ↔ Strands s e)

theorem stranded_cause (run : Run (mount config access route site) events s) (stranded : s.view.Stranded) :
    ∃ before e after, Passes (mount (N := N) config access route site) events before e after ∧
      ¬ before.view.Stranded ∧ Strands before e := by
  induction run with
  | nil =>
    obtain ⟨_, _, _, _, view⟩ := mount_view (N := N) config access route site
    rw [view] at stranded
    rcases stranded with ⟨node | link, _⟩
    · exact absurd rfl node
    · exact absurd rfl link
  | @snoc earlier s next e run step ih =>
    by_cases already : s.view.Stranded
    · obtain ⟨before, cause, after, ⟨prior, later, rfl, reached, caused⟩, free, strands⟩ := ih already
      exact ⟨before, cause, after, ⟨prior, later ++ [e], by simp, reached, caused⟩, free, strands⟩
    · refine ⟨s, e, next, ⟨earlier, [], rfl, run, step⟩, already, ?_⟩
      exact (stranded_step_iff (tidy_run run) (inStep_run run) step already).1 stranded

/-- The pointer leaves and ends the hover, except for a hover that the end of a call for a graph has
stranded. -/
theorem hover_ends (run : Run (mount config access route site) events s) :
    HoverEnds (mount config access route site) events s where
  leave := fun {next} step => by
    have inStep := inStep_run run
    have left := inStep_effect inStep step.effect
    obtain ⟨_, settled, _⟩ := left.settled
    have view : next.view = (s.view.point .leave).view := by
      cases step
      rfl
    rw [Interaction.hoverGone_iff settled, view, View.hovers_leave_iff inStep (grounded_run run)]
  cause stranded := stranded_cause run stranded
  strands free := fun step => stranded_step_iff (tidy_run run) (inStep_run run) step free

/-! ## A closed run -/

/-- Whole numbers, for closed runs. The circle on which nodes start has one point only. -/
local instance : Scalar Int where
  decideLt := inferInstance
  decideLe := inferInstance
  nat := Int.ofNat
  sqrt a := Nat.sqrt a.toNat
  sin _ := 0
  cos _ := 1
  trunc a := a
  pi := 3

local instance : Narrowing Int Int where
  narrow a := a
  widen a := a

/-- One node, for closed runs. -/
def oneNode : Option Reply :=
  some (.response 200 "[[\x7b\"id\":\"a\"\x7d]]")

/-- The pointer rests on a node. -/
theorem hover_ends_moved : ∃ s : Session Int Int,
    HoverEnds (mount {} .owned (some "A") ⟨none, ⟨0, 0⟩, true⟩)
      [.reply (.graph collectionA ⟨1⟩) oneNode, .point (.move ⟨500, 300⟩)] s ∧
      s.view.interaction.hoveredNode? = some "a" := by
  let start : Session Int Int := mount {} .owned (some "A") ⟨none, ⟨0, 0⟩, true⟩
  have nothing : Run start [] start := .nil
  have loaded := nothing.snoc (.reply (.graph collectionA ⟨1⟩) oneNode (by decide +kernel))
  have hovered := loaded.snoc (.point (.move ⟨500, 300⟩))
  exact ⟨_, hover_ends hovered, by decide +kernel⟩

/-- The pointer rests on a node while the graph is read again: once it has left the node is still hovered. -/
theorem hover_outlives_pointer : ∃ s next : Session Int Int,
    Run (mount {} .owned (some "A") ⟨none, ⟨0, 0⟩, true⟩)
      [.reply (.graph collectionA ⟨1⟩) oneNode, .point (.move ⟨500, 300⟩), .use .refresh,
        .reply (.graph collectionA ⟨2⟩) oneNode] s ∧
      Step s (.point .leave) next ∧ next.view.interaction.hoveredNode? = some "a" ∧
      next.view.interaction.highlightedNodes = ["a"] := by
  let start : Session Int Int := mount {} .owned (some "A") ⟨none, ⟨0, 0⟩, true⟩
  have nothing : Run start [] start := .nil
  have loaded := nothing.snoc (.reply (.graph collectionA ⟨1⟩) oneNode (by decide +kernel))
  have hovered := loaded.snoc (.point (.move ⟨500, 300⟩))
  have refreshed := hovered.snoc (.use (m := .refresh) (by decide +kernel))
  have again := refreshed.snoc (.reply (.graph collectionA ⟨2⟩) oneNode (by decide +kernel))
  exact ⟨_, _, again, .point .leave, by decide +kernel, by decide +kernel⟩

end Session

end GraphViewer

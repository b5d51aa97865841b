import GraphViewer.Proofs.Hovering
import GraphViewer.Proofs.Selecting
/-
What a move of the pointer leads to. The canvas remembers what the pointer rested on and tells the view only
of changes. That comes to the same as telling it of every move, as long as what the canvas remembers is what
is hovered. The two part when the graph is read again while something is hovered, which the canvas then no
longer remembers. Otherwise they part only when the user clears the focus with something under the pointer,
which is then hovered again only after the pointer has been elsewhere.
-/

namespace GraphViewer

/-! ## What the pointer hits -/

/-- The node that the pointer rests on. -/
def Hover.node? : Hover → Option NodeId
  | .node id => some id
  | _ => none

/-- The link that it rests on. -/
def Hover.link? : Hover → Option EdgeIndex
  | .link i => some i
  | _ => none

theorem Hover.eq_nothing {target : Hover} (node : target.node? = none) (link : target.link? = none) :
    target = .nothing := by
  cases target with
  | nothing => rfl
  | node id => cases node
  | link i => cases link

namespace Layout

variable {W N : Type} [Scalar W] [Narrowing W N] {l : Layout W N} {p : Point W} {t : Targets W}
  {i : Nat}

/-- The nearest of some candidates is one of them. -/
theorem mem_of_nearest? {candidates : List (EdgeIndex × W)} {c : EdgeIndex × W}
    (nearest : nearest? candidates = some c) : c ∈ candidates := by
  -- at every step the best one so far is one of them
  have picked : ∀ c, nearest? candidates = some c → c ∈ candidates := by
    refine List.foldlRecOn candidates _ (motive := fun best => ∀ c, best = some c → c ∈ candidates) nofun ?_
    intro best among d member c same
    cases best with
    | none =>
      cases same
      exact member
    | some b =>
      dsimp only at same
      split at same
      · cases same
        exact member
      · exact among c same
  exact picked c nearest

/-- Only a link that counts is hit. -/
theorem link_of_linkAt? (hit : l.linkAt? p t.link = some i) : t.link i = true := by
  rw [linkAt?, Option.map_eq_some_iff] at hit
  obtain ⟨⟨j, distance⟩, nearest, rfl⟩ := hit
  have candidate := List.mem_of_mem_filter (mem_of_nearest? nearest)
  obtain ⟨e, among, same⟩ := List.mem_filterMap.1 candidate
  obtain ⟨_, _, pair⟩ := Option.map_eq_some_iff.1 same
  cases pair
  exact (List.mem_filter.1 among).2

/-- A node that is hit has a place. -/
theorem place_of_nodeAt? {radius : Nat → Option W} (hit : l.nodeAt? p radius = some i) :
    ∃ q, l.physics.particles[i]? = some q := by
  -- whatever was found so far has a place, as only nodes with one are looked at
  have placed : ∀ i, l.nodeAt? p radius = some i → ∃ q, l.physics.particles[i]? = some q := by
    refine List.foldlRecOn l.particles.zipIdx _
      (motive := fun found => ∀ i, found = some i → ∃ q, l.physics.particles[i]? = some q) nofun ?_
    intro found before place member i same
    dsimp only at same
    split at same
    · exact before i same
    · split at same
      · cases same
        rw [← Array.getElem?_toList]
        exact ⟨_, List.mk_mem_zipIdx_iff_getElem?.1 member⟩
      · exact before i same
  exact placed i hit

theorem under_of_node (hit : l.nodeAt? p t.radius = some i) :
    ∃ q, l.physics.particles[i]? = some q ∧ l.under p t = .node q.id := by
  obtain ⟨q, place⟩ := place_of_nodeAt? hit
  exact ⟨q, place, by simp [under, hit, place]⟩

theorem under_of_link (beside : l.nodeAt? p t.radius = none) :
    (l.under p t).node? = none ∧ (l.under p t).link? = l.linkAt? p t.link := by
  rw [under, beside]
  cases l.linkAt? p t.link with
  | none => exact ⟨rfl, rfl⟩
  | some i => exact ⟨rfl, rfl⟩

theorem linkAt?_of_under (hit : l.under p t = .link i) : l.linkAt? p t.link = some i := by
  have link : (l.under p t).link? = some i := hit ▸ rfl
  cases node : l.nodeAt? p t.radius with
  | none => rw [← (under_of_link node).2, link]
  | some j =>
    obtain ⟨q, _, isNode⟩ := under_of_node node
    cases hit.symm.trans isNode

end Layout

/-! ## What is hovered -/

theorem Interaction.isResolved_of_showsLink {x : Interaction} {s : Snapshot} {e : Edge}
    (shown : x.showsLink s e = true) : s.isResolved e = true := by
  unfold showsLink at shown
  split at shown
  · rename_i source target
    simp [Snapshot.isResolved, Snapshot.contains, source, target]
  · cases shown

namespace Interaction

variable {x y : Interaction} {s : Snapshot} {target : Hover}

/-- The target of the pointer is hovered, and nothing else. -/
def HoversJust (x : Interaction) (target : Hover) : Prop :=
  x.hoveredNode? = target.node? ∧ x.hoveredLink = target.link?

/-- A link counts only if both its ends exist. -/
def Holds (s : Snapshot) (target : Hover) : Prop :=
  ∀ i, target = .link i → s.edges[i]?.any s.isResolved = true

theorem hoversJust_of_focus (focus : y.focus = x.focus) (link : y.hoveredLink = x.hoveredLink) :
    y.HoversJust target ↔ x.HoversJust target := by
  rw [HoversJust, HoversJust, hoveredNode?, hoveredNode?, focus, link]

theorem hoversJust_nothing_iff : x.HoversJust .nothing ↔ ¬ x.Hovers := by
  rw [Hovers, not_or, not_not, not_not]
  exact Iff.rfl

theorem not_hovers_of_focus (focus : y.focus = x.focus) (link : y.hoveredLink = x.hoveredLink) :
    ¬ y.Hovers ↔ ¬ x.Hovers := by
  rw [← hoversJust_nothing_iff, ← hoversJust_nothing_iff]
  exact hoversJust_of_focus focus link

/-- Without an active node, this is where the pointer leads to. -/
theorem hoversJust_iff (inactive : x.activeNode? = none) (holds : Holds s target) :
    x.HoversJust target ↔ (led s target).1 = x.focus ∧ (led s target).2 = x.hoveredLink := by
  have free := inactive_iff.1 inactive
  rw [HoversJust, hoveredNode?]
  cases focus : x.focus with
  | active id => exact absurd focus (free id)
  | none =>
    cases target with
    | nothing => simp [led, Hover.node?, Hover.link?, eq_comm]
    | node id => simp [led, Hover.node?]
    | link i => simp [led, Hover.node?, Hover.link?, holds i rfl, eq_comm]
  | hovered id =>
    cases target with
    | nothing => simp [led, Hover.node?]
    | node other => simp [led, Hover.node?, Hover.link?, eq_comm]
    | link i => simp [led, Hover.node?]

/-- A report of what is hovered anyway makes no difference. -/
theorem hover_of_hoversJust (inactive : x.activeNode? = none) (holds : Holds s target)
    (just : x.HoversJust target) : x.hover s target = x := by
  rw [hover_of_inactive (inactive_iff.1 inactive), if_pos ((hoversJust_iff inactive holds).1 just)]

/-- Any other report makes it hovered. -/
theorem hoversJust_hover (inactive : x.activeNode? = none) (holds : Holds s target) :
    (x.hover s target).HoversJust target := by
  rw [hover_of_inactive (inactive_iff.1 inactive)]
  split
  · exact (hoversJust_iff inactive holds).2 ‹_›
  · rw [hoversJust_of_focus (highlight_focus) (highlight_hoveredLink)]
    cases target with
    | nothing => exact ⟨rfl, rfl⟩
    | node id => exact ⟨rfl, rfl⟩
    | link i => exact ⟨rfl, if_pos (holds i rfl)⟩

end Interaction

variable {W N : Type} [Scalar W] [Narrowing W N]

/-- The node that is hit at a point of the canvas is hovered; with none there, no node is hovered and the link
that is hit, if any. -/
structure Interaction.HoversHit (x : Interaction) (l : Layout W N) (p : Point W) (t : Layout.Targets W) :
    Prop where
  node : ∀ {i}, l.nodeAt? p t.radius = some i →
    ∃ q, l.physics.particles[i]? = some q ∧ x.hoveredNode? = some q.id
  beside : l.nodeAt? p t.radius = none → x.hoveredNode? = none ∧ x.hoveredLink = l.linkAt? p t.link

theorem Interaction.HoversJust.hit {x : Interaction} {l : Layout W N} {p : Point W} {t : Layout.Targets W}
    (just : x.HoversJust (l.under p t)) : x.HoversHit l p t where
  node := fun hit => by
    obtain ⟨q, place, isNode⟩ := Layout.under_of_node hit
    refine ⟨q, place, just.1.trans ?_⟩
    rw [isNode]
    rfl
  beside := fun beside => by
    obtain ⟨node, link⟩ := Layout.under_of_link beside
    exact ⟨just.1.trans node, just.2.trans link⟩

namespace View

variable {v w : View W N} {l : Layout W N} {s : Snapshot} {target : Hover}

/-- What the pointer hits at a point of the screen. -/
def hit (v : View W N) (l : Layout W N) (screen : Point W) : Hover :=
  l.under (v.canvas.pointAt screen) v.targets

/-- A link that is hit is an edge of the snapshot that has both ends. -/
theorem holds_hit (shown : v.snapshot? = some s) (screen : Point W) : Interaction.Holds s (v.hit l screen) := by
  intro i isLink
  have visible := Layout.link_of_linkAt? (Layout.linkAt?_of_under isLink)
  rw [targets, shown] at visible
  obtain ⟨e, present, drawn⟩ := (Option.any_eq_true _ _).1 visible
  exact (Option.any_eq_true _ _).2 ⟨e, present, Interaction.isResolved_of_showsLink drawn⟩

theorem holds_of_finds {e : PointerEvent W} (shown : v.snapshot? = some s) (finds : v.Finds e target) :
    Interaction.Holds s target := by
  rcases finds with rfl | ⟨screen, l, _, _, rfl⟩
  · nofun
  · exact holds_hit shown screen

/-- A snapshot is shown and no node is active, but what is hovered is not what the canvas remembers. -/
structure AtOdds (v : View W N) : Prop where
  shown : v.snapshot? ≠ none
  inactive : v.interaction.activeNode? = none
  odd : ∃ l, v.canvas.layout = some l ∧ ¬ v.interaction.HoversJust l.pointer

omit [Scalar W] [Narrowing W N] in
theorem AtOdds.keeps (odds : w.AtOdds) (keeps : KeepsFocus v w) : v.AtOdds := by
  obtain ⟨m, present, odd⟩ := odds.odd
  obtain ⟨l, before, same⟩ := keeps.canvas.before present
  refine ⟨?_, ?_, l, before, ?_⟩
  · rw [← snapshot?_congr keeps.outcome]
    exact odds.shown
  · have inactive := Interaction.inactive_iff.1 odds.inactive
    rw [keeps.focus] at inactive
    exact Interaction.inactive_iff.2 inactive
  · rw [same.2, Interaction.hoversJust_of_focus keeps.focus keeps.link] at odd
    exact odd

/-- What the pointer has come to rest on is hovered. -/
theorem not_atOdds_of_rests {e : PointerEvent W} (finds : v.Finds e target) (rests : RestsOn v target w) :
    ¬ w.AtOdds := by
  intro odds
  obtain ⟨l, present, pointer⟩ := rests.canvas
  obtain ⟨m, again, odd⟩ := odds.odd
  cases present.symm.trans again
  obtain ⟨s, shown⟩ := Option.ne_none_iff_exists'.1 odds.shown
  rw [snapshot?_congr rests.outcome] at shown
  have inactive := odds.inactive
  rw [rests.interaction, hover, shown] at odd inactive
  rw [Interaction.hover_activeNode?] at inactive
  rw [pointer] at odd
  exact odd (Interaction.hoversJust_hover inactive (holds_of_finds shown finds))

variable [Scalar N]

/-- To be at odds with a canvas that has just been laid out anew, the view must still hover something. -/
theorem stranded_of_atOdds {result : Except Failure Loaded} (odds : (v.settle result).AtOdds) :
    (v.settle result).Stranded := by
  cases result with
  | error failure => exact absurd rfl odds.shown
  | ok loaded =>
    obtain ⟨l, present, odd⟩ := odds.odd
    rw [pointer_of_adopt present, Interaction.hoversJust_nothing_iff, not_not] at odd
    exact ⟨odd, .inr pointer_of_adopt⟩

/-- A move of the pointer with no press in progress: only a change is told. -/
theorem point_move (present : v.canvas.layout = some l) (undragged : l.drag = none) (unpanned : l.pan = none)
    (screen : Point W) : (v.point (.move screen)).view =
      if v.hit l screen = l.pointer then v.withLayout l
      else (v.withLayout { l with pointer := v.hit l screen }).hover (v.hit l screen) := by
  have moved : l.pointerMove (v.canvas.pointAt screen) v.targets =
      if v.hit l screen = l.pointer then (l, none)
      else ({ l with pointer := v.hit l screen }, some (v.hit l screen)) := by
    rw [Layout.pointerMove, undragged, unpanned]
    rfl
  rw [point, present]
  dsimp only
  rw [pointOn_move, moved]
  split <;> rfl

/-- Unless the view is at odds with its canvas, that is as good as to tell of every move. -/
theorem move_hovers (shown : v.snapshot? = some s) (inactive : v.interaction.activeNode? = none)
    (present : v.canvas.layout = some l) (undragged : l.drag = none) (unpanned : l.pan = none)
    (screen : Point W) (even : ¬ (v.AtOdds ∧ v.hit l screen = l.pointer)) :
    (v.point (.move screen)).view.interaction = (v.hover (v.hit l screen)).interaction ∧
      (v.hover (v.hit l screen)).interaction.HoversJust (v.hit l screen) := by
  have holds := holds_hit (l := l) shown screen
  have told : (v.hover (v.hit l screen)).interaction = v.interaction.hover s (v.hit l screen) := by
    rw [hover, shown]
  refine ⟨?_, told ▸ Interaction.hoversJust_hover inactive holds⟩
  rw [point_move present undragged unpanned]
  split
  -- nothing is told, but what the pointer rests on is hovered already
  · rename_i same
    have just : v.interaction.HoversJust (v.hit l screen) := by
      by_contra odd
      exact even ⟨⟨by simp [shown], inactive, l, present, same ▸ odd⟩, same⟩
    exact (told.trans (Interaction.hover_of_hoversJust inactive holds just)).symm
  · exact hover_withLayout v _ _

/-- At odds with it, a move that hits what the canvas remembers is not told, and what it hits is not hovered. -/
theorem move_differs (shown : v.snapshot? = some s) (odds : v.AtOdds) (present : v.canvas.layout = some l)
    (undragged : l.drag = none) (unpanned : l.pan = none) {screen : Point W} (same : v.hit l screen = l.pointer) :
    (v.point (.move screen)).view.interaction ≠ (v.hover (v.hit l screen)).interaction := by
  have just : (v.hover (v.hit l screen)).interaction.HoversJust (v.hit l screen) := by
    rw [hover, shown]
    exact Interaction.hoversJust_hover odds.inactive (holds_hit shown screen)
  obtain ⟨m, again, odd⟩ := odds.odd
  cases present.symm.trans again
  intro told
  rw [← told, point_move present undragged unpanned, if_pos same, same] at just
  exact odd just

end View

namespace Session

variable {start s next before : Session W N} {events : List (Event W)} {e : Event W} {config : Config}
  {access : Access} {route : Option String} {site : Site W} {l : Layout W N} {screen : Point W}

variable [Scalar N]

/-- The user clears the focus while the canvas remembers something under the pointer. -/
def Releases (s : Session W N) (e : Event W) : Prop :=
  s.view.selects? e = some none ∧ ∃ l, s.view.canvas.layout = some l ∧ l.pointer ≠ .nothing

/-- Then nothing is hovered, and what the canvas remembers is not. -/
theorem Releases.step (releases : Releases s e) (step : Step s e next) :
    next.view.AtOdds ∧ ¬ next.view.interaction.Hovers := by
  obtain ⟨cleared, l, present, resting⟩ := releases
  -- nothing else that can happen clears the focus by hand
  cases step.attends with
  | keeps unselected => cases unselected.symm.trans cleared
  | rests unselected => cases unselected.symm.trans cleared
  | drops unselected => cases unselected.symm.trans cleared
  | settles unselected => cases unselected.symm.trans cleared
  | selects selected selects =>
    cases selected.symm.trans cleared
    obtain ⟨snapshot, shown, interaction⟩ := selects.interaction
    obtain ⟨m, after, same⟩ := selects.canvas.after present
    have free : ¬ next.view.interaction.Hovers := by
      rw [interaction]
      exact Interaction.not_hovers_select none
    refine ⟨⟨?_, ?_, m, after, ?_⟩, free⟩
    · rw [View.snapshot?_congr selects.outcome, shown]
      exact Option.some_ne_none snapshot
    · rw [interaction]
      rfl
    · obtain ⟨node, link⟩ := Interaction.hoversJust_nothing_iff.2 free
      intro just
      refine resting ?_
      rw [← same.2]
      exact Hover.eq_nothing (just.1.symm.trans node) (just.2.symm.trans link)

/-- What has put the view at odds with its canvas: nothing new, the user who cleared the focus, or the end of
the newest call for a graph while something was hovered. -/
theorem atOdds_cause (tidy : Tidy s) (step : Step s e next) (odds : next.view.AtOdds) :
    (s.view.AtOdds ∧ s.view.KeepsFocus next.view) ∨ Releases s e ∨ Strands s e := by
  cases step.attends with
  | keeps _ keeps => exact .inl ⟨odds.keeps keeps, keeps⟩
  | rests _ _ finds rests => exact absurd odds (View.not_atOdds_of_rests finds rests)
  | drops _ drops => exact absurd (congrArg Outcome.snapshot? drops.outcome) odds.shown
  | @selects target selected selects =>
    obtain ⟨snapshot, shown, interaction⟩ := selects.interaction
    obtain ⟨inactive, m, present, odd⟩ := And.intro odds.inactive odds.odd
    obtain ⟨l, before, same⟩ := selects.canvas.before present
    rw [interaction] at inactive odd
    cases target with
    | some id => cases inactive
    -- nothing is hovered now, so the canvas must remember something
    | none =>
      refine .inr (.inl ⟨selected, l, before, fun idle => odd ?_⟩)
      rw [same.2, idle, Interaction.hoversJust_nothing_iff]
      exact Interaction.not_hovers_select none
  | @settles collection ticket answer _ isReply waiting current view =>
    have newest := (graph_current_iff tidy.toTicketed waiting).1 current
    refine .inr (.inr ⟨collection, ticket, answer, isReply, newest, ?_⟩)
    rw [view] at odds
    generalize (s.view.client.graph collection s.view.access answer).1 = result at odds
    exact (View.stranded_settle_iff result).1 (View.stranded_of_atOdds odds)

/-- The view is at odds with its canvas, and has been since an event of some kind. -/
def OddSince (kind : Session W N → Event W → Prop) (start : Session W N) (events : List (Event W))
    (s : Session W N) : Prop :=
  ∃ before e, Began (·.view.AtOdds) start events s before e ∧ kind before e

/-- What a move of the pointer leads to, after any events that do not leave the view at odds with its canvas
since the newest call for a graph ended while something was hovered, with a snapshot shown, no node active and
no press in progress. -/
structure HoverFollows (start : Session W N) (events : List (Event W)) (s : Session W N) : Prop where
  /-- What the move hits is hovered, just as if every move were reported, unless it hits what the canvas
  remembers while the view is at odds with it since the user cleared the focus. -/
  move : ¬ OddSince Strands start events s → ∀ {snapshot l screen next}, s.view.outcome = .loaded snapshot →
    s.view.interaction.activeNode? = none → s.view.canvas.layout = some l → l.drag = none → l.pan = none →
    ¬ (OddSince Releases start events s ∧ s.view.hit l screen = l.pointer) →
    Step s (.point (.move screen)) next →
    next.view.interaction.HoversHit l (s.view.canvas.pointAt screen) s.view.targets ∧
      next.view.interaction = (s.view.hover (s.view.hit l screen)).interaction
  /-- Whatever has put the view at odds, the move differs from a report exactly if it hits what the canvas
  remembers, and what it hits is hovered in every other case. -/
  differs : ∀ {snapshot l screen next}, s.view.outcome = .loaded snapshot →
    s.view.interaction.activeNode? = none → s.view.canvas.layout = some l → l.drag = none → l.pan = none →
    Step s (.point (.move screen)) next →
    (next.view.interaction ≠ (s.view.hover (s.view.hit l screen)).interaction ↔
      s.view.AtOdds ∧ s.view.hit l screen = l.pointer) ∧
    (¬ (s.view.AtOdds ∧ s.view.hit l screen = l.pointer) →
      next.view.interaction.HoversHit l (s.view.canvas.pointAt screen) s.view.targets)
  /-- The view is at odds with its canvas only since the user cleared the focus with something under the
  pointer, or since the newest call for a graph ended while something was hovered. -/
  cause : s.view.AtOdds → OddSince Releases start events s ∨ OddSince Strands start events s
  /-- Clearing the focus with something under the pointer always puts it at odds. -/
  releases : ∀ {e next}, Releases s e → Step s e next → next.view.AtOdds
  /-- As long as it is at odds since then, a move that hits what the canvas remembers has nothing hovered. -/
  missed : OddSince Releases start events s → ∀ {l screen next}, s.view.canvas.layout = some l →
    l.drag = none → l.pan = none → s.view.hit l screen = l.pointer →
    Step s (.point (.move screen)) next → ¬ next.view.interaction.Hovers ∧ next.view.AtOdds

omit [Scalar N] [Narrowing W N] in
theorem not_atOdds_mount (config : Config) (access : Access) (route : Option String) (site : Site W) :
    ¬ (mount (N := N) config access route site).view.AtOdds := by
  intro odds
  obtain ⟨_, _, _, _, view⟩ := mount_view (N := N) config access route site
  rw [view] at odds
  exact odds.shown rfl

omit [Scalar W] [Scalar N] [Narrowing W N] in
theorem Strands.hovers (strands : Strands s e) : s.view.interaction.Hovers := by
  obtain ⟨collection, _, answer, _, _, hovered⟩ := strands
  generalize (s.view.client.graph collection s.view.access answer).1 = result at hovered
  cases result with
  | error failure => exact hovered
  | ok loaded =>
    obtain ⟨id, isHovered, _⟩ := hovered
    exact .inl (by simp [isHovered])

/-- With nothing hovered before, a view that is at odds with its canvas hovers nothing. -/
theorem not_hovers_step (tidy : Tidy s) (step : Step s e next) (odds : next.view.AtOdds)
    (free : ¬ s.view.interaction.Hovers) : ¬ next.view.interaction.Hovers := by
  rcases atOdds_cause tidy step odds with ⟨_, keeps⟩ | releases | strands
  · exact (Interaction.not_hovers_of_focus keeps.focus keeps.link).2 free
  · exact (releases.step step).2
  · exact absurd strands.hovers free

theorem not_hovers_since {start : Session W N} (mounted : start = mount config access route site)
    (began : Began (·.view.AtOdds) start events s before e) (releases : Releases before e) :
    ¬ s.view.interaction.Hovers := by
  subst mounted
  induction began with
  | now _ step _ _ => exact (releases.step step).2
  | still began step odds ih => exact not_hovers_step (tidy_run began.run) step odds (ih releases)

theorem point_view {event : PointerEvent W} (step : Step s (.point event) next) :
    next.view = (s.view.point event).view := by
  cases step
  rfl

/-- What puts the view at odds with its canvas. -/
theorem atOdds_since (run : Run (mount config access route site) events s) (odds : s.view.AtOdds) :
    OddSince Releases (mount config access route site) events s ∨
      OddSince Strands (mount config access route site) events s := by
  obtain ⟨before, e, began⟩ : ∃ before e, Began (·.view.AtOdds) _ events s before e :=
    run.began (not_atOdds_mount config access route site) odds
  obtain ⟨earlier, after, prior, step, free, now⟩ := began.step
  rcases atOdds_cause (tidy_run prior) step now with ⟨already, _⟩ | releases | strands
  · exact absurd already free
  · exact .inl ⟨before, e, began, releases⟩
  · exact .inr ⟨before, e, began, strands⟩

theorem move_differs_iff {snapshot : Snapshot} (loaded : s.view.outcome = .loaded snapshot)
    (inactive : s.view.interaction.activeNode? = none) (present : s.view.canvas.layout = some l)
    (undragged : l.drag = none) (unpanned : l.pan = none) (step : Step s (.point (.move screen)) next) :
    (next.view.interaction ≠ (s.view.hover (s.view.hit l screen)).interaction ↔
      s.view.AtOdds ∧ s.view.hit l screen = l.pointer) ∧
    (¬ (s.view.AtOdds ∧ s.view.hit l screen = l.pointer) →
      next.view.interaction.HoversHit l (s.view.canvas.pointAt screen) s.view.targets) := by
  have shown := congrArg Outcome.snapshot? loaded
  have moves := View.move_hovers shown inactive present undragged unpanned screen
  rw [point_view step]
  refine ⟨⟨fun differs => ?_, fun ⟨odds, same⟩ => ?_⟩, fun even => ?_⟩
  · by_contra even
    exact differs (moves even).1
  · exact View.move_differs shown odds present undragged unpanned same
  · obtain ⟨told, just⟩ := moves even
    rw [told]
    exact just.hit

/-- Unless the view is at odds with its canvas since a call for a graph ended while something was hovered, a move
hovers what it hits, except for what the canvas remembers after the user has cleared the focus. -/
theorem hover_follows (run : Run (mount config access route site) events s) :
    HoverFollows (mount config access route site) events s where
  move := fun unstranded {_ l screen _} loaded inactive present undragged unpanned unreleased step => by
    have even : ¬ (s.view.AtOdds ∧ s.view.hit l screen = l.pointer) := fun ⟨odds, same⟩ =>
      (atOdds_since run odds).elim (fun releases => unreleased ⟨releases, same⟩) unstranded
    obtain ⟨differs, hits⟩ := move_differs_iff loaded inactive present undragged unpanned step
    exact ⟨hits even, not_not.1 (mt differs.1 even)⟩
  differs := move_differs_iff
  cause := atOdds_since run
  releases := fun releases step => (releases.step step).1
  missed := by
    rintro ⟨before, e, began, releases⟩ l screen next present undragged unpanned same step
    have still := (View.rests_withLayout present ⟨rfl, rfl⟩).keeps
    have moved := point_view step
    rw [View.point_move present undragged unpanned, if_pos same] at moved
    rw [moved]
    exact ⟨not_hovers_since rfl began releases, began.holds.keeps still.symm⟩

/-! ## A closed run -/

attribute [local instance] instScalarInt instNarrowingInt

/-- The pointer comes to rest on a node. -/
theorem hover_follows_moved : ∃ s : Session Int Int,
    HoverFollows (mount {} .owned (some "A") ⟨none, ⟨0, 0⟩, true⟩)
      [.reply (.graph collectionA ⟨1⟩) oneNode, .point (.move ⟨500, 300⟩)] s ∧
      s.view.interaction.hoveredNode? = some "a" := by
  let start : Session Int Int := mount {} .owned (some "A") ⟨none, ⟨0, 0⟩, true⟩
  have nothing : Run start [] start := .nil
  have loaded := nothing.snoc (.reply (.graph collectionA ⟨1⟩) oneNode (by decide +kernel))
  have hovered := loaded.snoc (.point (.move ⟨500, 300⟩))
  exact ⟨_, hover_follows hovered, by decide +kernel⟩

/-- A node is clicked twice, which selects it and clears the focus. The pointer moves on over the node, and it
is not hovered. -/
theorem released_not_hovered : ∃ s next : Session Int Int,
    Run (mount {} .owned (some "A") ⟨none, ⟨0, 0⟩, true⟩)
      [.reply (.graph collectionA ⟨1⟩) oneNode, .point (.move ⟨500, 300⟩),
        .point (.down ⟨500, 300⟩), .point .up, .point (.down ⟨500, 300⟩), .point .up] s ∧
      (∃ snapshot, s.view.outcome = .loaded snapshot) ∧ s.view.interaction.activeNode? = none ∧
      (∃ l, s.view.canvas.layout = some l ∧ l.drag = none ∧ l.pan = none ∧
        s.view.hit l ⟨501, 300⟩ = .node "a") ∧
      Step s (.point (.move ⟨501, 300⟩)) next ∧ next.view.interaction.hoveredNode? = none := by
  let start : Session Int Int := mount {} .owned (some "A") ⟨none, ⟨0, 0⟩, true⟩
  have nothing : Run start [] start := .nil
  have loaded := nothing.snoc (.reply (.graph collectionA ⟨1⟩) oneNode (by decide +kernel))
  have hovered := loaded.snoc (.point (.move ⟨500, 300⟩))
  have selected := (hovered.snoc (.point (.down ⟨500, 300⟩))).snoc (.point .up)
  have cleared := (selected.snoc (.point (.down ⟨500, 300⟩))).snoc (.point .up)
  have loadedIn {events} {s : Session Int Int} (_ : Run start events s)
      (isLoaded : s.view.snapshot?.isSome = true) : ∃ snapshot, s.view.outcome = .loaded snapshot := by
    obtain ⟨snapshot, shown⟩ := Option.isSome_iff_exists.1 isLoaded
    exact ⟨snapshot, View.outcome_of_snapshot? shown⟩
  have hits {events} {s : Session Int Int} (_ : Run start events s)
      (idle : s.view.canvas.layout.any fun l =>
        l.drag = none ∧ l.pan = none ∧ s.view.hit l ⟨501, 300⟩ = .node "a") :
      ∃ l, s.view.canvas.layout = some l ∧ l.drag = none ∧ l.pan = none ∧
        s.view.hit l ⟨501, 300⟩ = .node "a" := by
    obtain ⟨l, present, free⟩ := (Option.any_eq_true _ _).1 idle
    exact ⟨l, present, of_decide_eq_true free⟩
  exact ⟨_, _, cleared, loadedIn cleared (by decide +kernel), by decide +kernel,
    hits cleared (by decide +kernel), .point (.move ⟨501, 300⟩), by decide +kernel⟩

end Session

end GraphViewer

import GraphViewer.Proofs.Places
import GraphViewer.Proofs.Session
/-
What one step of a session can do. The user glances around: what is in focus, where the camera stands and
what is open changes then, and nothing that was read. Apart from that there are only an answer to a
suggestion, a wish to read everything anew, a route that changes, and the end of a call.
-/

namespace GraphViewer

variable {W N : Type}

namespace View

/-- Both views read for the same reader and the same collection, and have asked for as much. -/
structure SameBooks (v w : View W N) : Prop where
  access : w.access = v.access
  client : w.client = v.client
  route : w.route = v.route
  scope : w.scope = v.scope
  loading : w.loading = v.loading
  graphTickets : w.graphTickets = v.graphTickets
  suggestionTickets : w.suggestionTickets = v.suggestionTickets

/-- From one view to the other the user has at most looked around. -/
structure Looks (v w : View W N) : Prop extends SameBooks v w where
  outcome : w.outcome = v.outcome
  groups : w.groups = v.groups
  suggestions : w.merge.suggestions = v.merge.suggestions
  busy : w.merge.busy = v.merge.busy
  error : w.merge.error = v.merge.error

variable {u v w : View W N}

theorem SameBooks.collection? (same : SameBooks v w) : w.collection? = v.collection? := by
  rw [View.collection?, View.collection?, same.route]

theorem Looks.refl (v : View W N) : Looks v v :=
  ⟨⟨rfl, rfl, rfl, rfl, rfl, rfl, rfl⟩, rfl, rfl, rfl, rfl, rfl⟩

theorem Looks.trans (one : Looks u v) (other : Looks v w) : Looks u w where
  access := other.access.trans one.access
  client := other.client.trans one.client
  route := other.route.trans one.route
  scope := other.scope.trans one.scope
  loading := other.loading.trans one.loading
  graphTickets := other.graphTickets.trans one.graphTickets
  suggestionTickets := other.suggestionTickets.trans one.suggestionTickets
  outcome := other.outcome.trans one.outcome
  groups := other.groups.trans one.groups
  suggestions := other.suggestions.trans one.suggestions
  busy := other.busy.trans one.busy
  error := other.error.trans one.error

theorem looks_with (v : View W N) (interaction : Interaction) (aim : Option Aim) (canvas : Canvas W N)
    (fullscreen : Bool) (search : String) (searchOpen isOpen : Bool) :
    Looks v { v with
      interaction := interaction, aim := aim, canvas := canvas, fullscreen := fullscreen
      search := search, searchOpen := searchOpen, merge := { v.merge with isOpen := isOpen } } :=
  ⟨⟨rfl, rfl, rfl, rfl, rfl, rfl, rfl⟩, rfl, rfl, rfl, rfl, rfl⟩

end View

/-- A turn that starts no calls only changes the view. -/
theorem Session.follow_of_calls (s : Session W N) {t : Turn W N} (calls : t.calls = []) :
    s.follow t = { s with view := t.view } := by
  simp [follow, calls]

/-! ## Glancing around -/

namespace View

variable {u v w : View W N}

/-- Moreover nothing has come into focus or gone out of it, and the canvas has the same nodes. -/
structure Rests (v w : View W N) : Prop extends Looks v w where
  interaction : w.interaction = v.interaction
  canvas : v.canvas.SameNodes w.canvas

theorem Rests.refl (v : View W N) : Rests v v :=
  ⟨.refl v, rfl, .refl v.canvas⟩

/-- The node is one of the snapshot, or one that has a place on the canvas. -/
def Knows (v : View W N) (s : Snapshot) (id : NodeId) : Prop :=
  s.contains id = true ∨ ∃ l, v.canvas.layout = some l ∧ id ∈ l.ids

/-- All that glancing around can change. The pointer may come to rest on something while no snapshot is
shown, and then nothing is hovered because of it. -/
inductive Glance (v w : View W N) : Prop
  | rests : Rests v w → Glance v w
  | toggles (key : EntityKey) : Looks v w → w.interaction = v.interaction.toggleType key →
      v.canvas.SameNodes w.canvas → Glance v w
  | selects {s : Snapshot} (target : Option NodeId) : Looks v w → v.snapshot? = some s →
      (∀ {id}, target = some id → v.Knows s id) → w.interaction = (v.interaction.select s target).1 →
      v.canvas.SameNodes w.canvas → Glance v w
  | hovers {l : Layout W N} {target : Hover} : Looks v w → v.canvas.layout = some l →
      (∀ {id}, target = .node id → id ∈ l.ids) → w.interaction = (v.hover target).interaction →
      (∃ next, w.canvas.layout = some next ∧ next.ids = l.ids ∧ next.pointer = target) → Glance v w

theorem Glance.looks (glance : Glance v w) : Looks v w := by
  cases glance with
  | rests rests => exact rests.toLooks
  | toggles _ looks => exact looks
  | selects _ looks => exact looks
  | hovers looks => exact looks

/-- What is open does not matter to it. -/
theorem Glance.trans_looks (glance : Glance v u) (looks : Looks u w)
    (interaction : w.interaction = u.interaction) (canvas : w.canvas = u.canvas) : Glance v w := by
  have all := glance.looks.trans looks
  cases glance with
  | rests rests => exact .rests ⟨all, interaction.trans rests.interaction, canvas ▸ rests.canvas⟩
  | toggles key _ toggled same => exact .toggles key all (interaction.trans toggled) (canvas ▸ same)
  | selects target _ shown known selected same =>
    exact .selects target all shown known (interaction.trans selected) (canvas ▸ same)
  | hovers _ present known hovered next =>
    exact .hovers all present known (interaction.trans hovered) (canvas ▸ next)

theorem rests_withLayout {l next : Layout W N} (present : v.canvas.layout = some l)
    (same : l.SameNodes next) : Rests v (v.withLayout next) :=
  ⟨looks_with v .., rfl, Canvas.sameNodes_with present same⟩

theorem rests_canvas {canvas : Canvas W N} (same : v.canvas.SameNodes canvas) :
    Rests v { v with canvas := canvas } :=
  ⟨looks_with v .., rfl, same⟩

theorem snapshot?_congr (same : w.outcome = v.outcome) : w.snapshot? = v.snapshot? :=
  congrArg Outcome.snapshot? same

theorem snapshot?_of_looks (looks : Looks v w) : w.snapshot? = v.snapshot? :=
  snapshot?_congr looks.outcome

theorem looks_hover (v : View W N) (target : Hover) : Looks v (v.hover target) := by
  unfold hover
  split
  · exact .refl v
  · exact looks_with v ..

/-- What is hovered does not depend on the layout. -/
theorem hover_withLayout (v : View W N) (l : Layout W N) (target : Hover) :
    ((v.withLayout l).hover target).interaction = (v.hover target).interaction := by
  have same : (v.withLayout l).snapshot? = v.snapshot? := rfl
  unfold hover
  rw [same]
  split <;> rfl

/-- A new thing under the pointer is remembered by the canvas and hovered. -/
theorem glance_hover {l next : Layout W N} {target : Hover} (present : v.canvas.layout = some l)
    (known : ∀ {id}, target = .node id → id ∈ l.ids) (ids : next.ids = l.ids)
    (pointer : next.pointer = target) : Glance v ((v.withLayout next).hover target) := by
  have looks : Looks v ((v.withLayout next).hover target) := (looks_with v ..).trans (looks_hover _ target)
  refine .hovers looks present known (hover_withLayout v next target) ⟨next, ?_, ids, pointer⟩
  unfold hover
  split <;> rfl

variable [Scalar W] [Narrowing W N]

theorem glance_selected {s : Snapshot} {target : Option NodeId} (rests : Rests v u)
    (shown : v.snapshot? = some s) (known : ∀ {id}, target = some id → v.Knows s id) :
    Glance v (u.selected (u.interaction.select s target)).view := by
  refine .selects target (rests.toLooks.trans (looks_with u ..)) shown known ?_ ?_
  · rw [← rests.interaction]
    rfl
  · exact rests.canvas.trans (Canvas.sameNodes_obey _ _)

theorem glance_clickNode {id : NodeId} (rests : Rests v u)
    (known : ∀ {s}, v.snapshot? = some s → v.Knows s id) : Glance v (u.clickNode id).view := by
  unfold clickNode
  split
  · exact .rests rests
  · rename_i s shown
    rw [snapshot?_of_looks rests.toLooks] at shown
    refine glance_selected rests shown ?_
    intro other same
    split at same
    · cases same
    · cases same
      exact known shown

theorem glance_activate (v : View W N) (id : NodeId) : Glance v (v.activate id).view := by
  unfold activate
  split
  · exact .rests (.refl v)
  · rename_i s shown
    split
    · rename_i contained
      refine glance_selected (.refl v) shown ?_
      rintro _ ⟨⟩
      exact .inl contained
    · exact .rests (.refl v)

theorem glance_clearFocus (v : View W N) : Glance v v.clearFocus.view := by
  unfold clearFocus
  split
  · exact .rests (.refl v)
  · rename_i s shown
    exact glance_selected (.refl v) shown nofun

theorem clickNode_calls (v : View W N) (id : NodeId) : (v.clickNode id).calls = [] := by
  unfold clickNode
  split <;> rfl

/-- A control of the page lets the user glance around, asks for everything anew, or passes an answer on. -/
theorem handle_cases {m : Message} (offered : v.Offers m) :
    (Glance v (v.handle m).view ∧ (v.handle m).calls = []) ∨
    (m = .refresh ∧ v.handle m = ⟨v.refresh.1, [], v.refresh.2⟩) ∨
    ∃ suggestion action, m = .answer suggestion action ∧ v.handle m = v.answer suggestion action := by
  have opens (w : View W N) (looks : Looks v w) (interaction : w.interaction = v.interaction)
      (canvas : w.canvas = v.canvas) : Glance v w :=
    (Glance.rests (.refl v)).trans_looks looks interaction canvas
  cases m with
  | toggleSearch => exact .inl ⟨opens _ (looks_with v ..) rfl rfl, rfl⟩
  | searchFor query => exact .inl ⟨opens _ (looks_with v ..) rfl rfl, rfl⟩
  | openMerges => exact .inl ⟨opens _ (looks_with v ..) rfl rfl, rfl⟩
  | pick id =>
    refine .inl ⟨(glance_clickNode (.refl v) ?_).trans_looks (looks_with _ ..) rfl rfl, clickNode_calls v id⟩
    intro s shown
    obtain ⟨_, found⟩ := offers_iff.1 offered
    have member : id ∈ s.search v.search := by
      have same : v.outcome.snapshot? = some s := shown
      rw [searchResults, same] at found
      exact found
    obtain ⟨n, present, rfl⟩ := List.mem_map.1 (List.mem_of_mem_filter member)
    exact .inl ((s.contains_iff n.id).2 ⟨n, present, rfl⟩)
  | refresh => exact .inr (.inl ⟨rfl, rfl⟩)
  | toggleFullscreen =>
    exact .inl ⟨.rests ⟨looks_with v .., rfl, v.canvas.sameNodes_fit⟩, rfl⟩
  | toggleType key => exact .inl ⟨.toggles key (looks_with v ..) rfl (.refl v.canvas), rfl⟩
  | activate id =>
    refine .inl ⟨glance_activate v id, ?_⟩
    rw [handle, activate]
    split
    · rfl
    · split <;> rfl
  | clearFocus =>
    refine .inl ⟨glance_clearFocus v, ?_⟩
    rw [handle, clearFocus]
    split <;> rfl
  | closeMerges =>
    refine .inl ⟨(glance_clearFocus v).trans_looks (looks_with _ ..) rfl rfl, ?_⟩
    rw [handle, clearFocus]
    split <;> rfl
  | answer suggestion action => exact .inr (.inr ⟨suggestion, action, rfl, rfl⟩)

variable [Scalar N]

theorem pointOn_move (v : View W N) (l : Layout W N) (screen : Point W) :
    v.pointOn l (.move screen) =
      ((l.pointerMove (v.canvas.pointAt screen) v.targets).2.elim
        (v.withLayout (l.pointerMove (v.canvas.pointAt screen) v.targets).1)
        (v.withLayout (l.pointerMove (v.canvas.pointAt screen) v.targets).1).hover).quiet :=
  rfl

theorem pointOn_up (v : View W N) (l : Layout W N) :
    v.pointOn l .up =
      l.pointerUp.2.elim (v.withLayout l.pointerUp.1).quiet (v.withLayout l.pointerUp.1).clickNode :=
  rfl

theorem pointOn_leave (v : View W N) (l : Layout W N) :
    v.pointOn l .leave =
      (if l.pointerLeave.2 then (v.withLayout l.pointerLeave.1).hover .nothing
        else v.withLayout l.pointerLeave.1).quiet :=
  rfl

theorem glance_pointOn {l : Layout W N} (present : v.canvas.layout = some l) (e : PointerEvent W) :
    Glance v (v.pointOn l e).view := by
  cases e with
  | down screen => exact .rests (rests_withLayout present (l.sameNodes_pointerDown _ _))
  | wheel screen turn => exact .rests (rests_withLayout present (l.sameNodes_wheel _ _))
  | move screen =>
    rw [pointOn_move]
    rcases l.pointerMove_cases (v.canvas.pointAt screen) v.targets with
      ⟨silent, same⟩ | ⟨target, report, moved, known⟩
    · rw [silent]
      exact .rests (rests_withLayout present same)
    · rw [report, moved]
      exact glance_hover present known rfl rfl
  | up =>
    rw [pointOn_up]
    have rests := rests_withLayout present l.sameNodes_pointerUp
    cases clicked : l.pointerUp.2 with
    | none => exact .rests rests
    | some id => exact glance_clickNode rests fun _ => .inr ⟨l, present, Layout.mem_ids_of_clicked clicked⟩
  | leave =>
    rw [pointOn_leave]
    cases hovering : l.pointerLeave.2 with
    | true => exact glance_hover present nofun rfl rfl
    | false =>
      have idle : l.pointer = .nothing := by simpa [Layout.pointerLeave] using hovering
      exact .rests (rests_withLayout present ⟨rfl, idle.symm⟩)

theorem glance_point (v : View W N) (e : PointerEvent W) : Glance v (v.point e).view := by
  unfold point
  split
  · exact .rests (.refl v)
  · exact glance_pointOn ‹_› e

theorem glance_frame {measure : Measure W} {strokes : List (Stroke W)}
    (painted : v.frame? measure = some (w, strokes)) : Glance v w := by
  unfold frame? at painted
  split at painted
  · cases painted
    exact .rests (.refl v)
  · obtain ⟨l, ticked, same⟩ := Option.map_eq_some_iff.1 painted
    cases same
    exact .rests (rests_withLayout ‹_› (Layout.sameNodes_tick ticked))

theorem point_calls (v : View W N) (e : PointerEvent W) : (v.point e).calls = [] := by
  unfold point
  split
  · rfl
  · rename_i l _
    cases e with
    | down screen => rfl
    | move screen => rfl
    | leave => rfl
    | wheel screen turn => rfl
    | up =>
      rw [pointOn_up]
      cases l.pointerUp.2 with
      | none => rfl
      | some id => exact clickNode_calls _ id

end View

/-! ## One step -/

namespace Session

variable [Scalar W] [Scalar N] [Narrowing W N]

/-- The view reads everything anew. -/
def refreshed (s : Session W N) : Session W N :=
  s.follow ⟨s.view.refresh.1, [], s.view.refresh.2⟩

/-- The view goes on to the collection in another route. -/
def entered (s : Session W N) (route : Option String) : Session W N :=
  s.follow { s.view with route := route }.enter

/-- A call ends. -/
def ended (s : Session W N) (call : Call) (answer : Option Reply) : Session W N :=
  (s.without call).follow (s.view.replied call answer)

/-- Everything that a step can be. -/
inductive Effect (s : Session W N) : Event W → Session W N → Prop
  | glances {e : Event W} {w : View W N} : s.view.Glance w → Effect s e { s with view := w }
  | refreshes : Effect s (.use .refresh) s.refreshed
  | answers {suggestion : String} {action : MergeAction} : s.view.Offers (.answer suggestion action) →
      Effect s (.use (.answer suggestion action)) (s.follow (s.view.answer suggestion action))
  | enters {route : Option String} : route ≠ s.view.route → Effect s (.navigate route) (s.entered route)
  | ends {call : Call} (answer : Option Reply) : call ∈ s.waiting →
      Effect s (.reply call answer) (s.ended call answer)

theorem Step.effect {s next : Session W N} {e : Event W} (step : Step s e next) : Effect s e next := by
  cases step with
  | @use m offered =>
    rcases View.handle_cases offered with ⟨glance, calls⟩ | ⟨rfl, same⟩ | ⟨suggestion, action, rfl, same⟩
    · rw [s.follow_of_calls calls]
      exact .glances glance
    · rw [same]
      exact .refreshes
    · exact .answers offered
  | point e =>
    rw [s.follow_of_calls (s.view.point_calls e)]
    exact .glances (s.view.glance_point e)
  | navigate route =>
    by_cases same : route = s.view.route
    · rw [View.navigate, if_pos same, s.follow_of_calls rfl]
      exact .glances (.rests (.refl s.view))
    · rw [View.navigate, if_neg same]
      exact .enters same
  | resize room =>
    rw [s.follow_of_calls rfl]
    exact .glances (.rests (View.rests_canvas (s.view.canvas.sameNodes_moveTo room)))
  | frame painted =>
    rw [s.follow_of_calls rfl]
    exact .glances (View.glance_frame painted)
  | reply call answer waiting => exact .ends answer waiting

end Session

end GraphViewer

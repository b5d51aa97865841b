import GraphViewer.Proofs.Focus
/-
What each event does to the focus. The user selects something with a click on a node, with an entry of a
list, or by closing a panel, as long as a snapshot is shown; the pointer hovers something by coming to rest on
it; another collection drops the focus, and the end of the newest call for a graph takes it over to what was
read. Everything else leaves the focus as it is. So what is active was selected by the user, and was active
ever since.
-/

namespace GraphViewer

variable {W N : Type}

namespace View

/-- What a click on a node selects: the node, or none if it is active already. -/
def clicked (v : View W N) (id : NodeId) : Option NodeId :=
  if v.interaction.activeNode? = some id then none else some id

/-- What the user selects with an event, a node or none, if anything is selected by it. While no snapshot is
shown nothing is. -/
def selects? (v : View W N) (e : Event W) : Option (Option NodeId) :=
  v.snapshot?.bind fun s =>
    match e with
    | .use (.pick id) => some (v.clicked id)
    | .use (.activate id) => if s.contains id then some (some id) else none
    | .use .clearFocus | .use .closeMerges => some none
    | .point .up => (v.canvas.layout.bind fun l => l.pointerUp.2).map v.clicked
    | _ => none

/-- The focus is as it was, and so is what the canvas remembers of the pointer. -/
structure KeepsFocus (v w : View W N) : Prop where
  outcome : w.outcome = v.outcome
  focus : w.interaction.focus = v.interaction.focus
  link : w.interaction.hoveredLink = v.interaction.hoveredLink
  canvas : v.canvas.SameNodes w.canvas

/-- The user has selected a node, or none. -/
structure Selects (v : View W N) (target : Option NodeId) (w : View W N) : Prop where
  outcome : w.outcome = v.outcome
  interaction : ∃ s, v.snapshot? = some s ∧ w.interaction = (v.interaction.select s target).1
  canvas : v.canvas.SameNodes w.canvas

/-- The pointer has come to rest on something, or has left, and the view was told. -/
structure RestsOn (v : View W N) (target : Hover) (w : View W N) : Prop where
  outcome : w.outcome = v.outcome
  interaction : w.interaction = (v.hover target).interaction
  canvas : ∃ l, w.canvas.layout = some l ∧ l.pointer = target

variable {v w : View W N} {s : Snapshot}

theorem selects?_of_none (nothing : v.snapshot? = none) (e : Event W) : v.selects? e = none := by
  rw [selects?, nothing, Option.bind_none]

theorem selects?_of_some (shown : v.snapshot? = some s) (e : Event W) : v.selects? e =
    match e with
    | .use (.pick id) => some (v.clicked id)
    | .use (.activate id) => if s.contains id then some (some id) else none
    | .use .clearFocus | .use .closeMerges => some none
    | .point .up => (v.canvas.layout.bind fun l => l.pointerUp.2).map v.clicked
    | _ => none := by
  rw [selects?, shown, Option.bind_some]

theorem KeepsFocus.symm (keeps : KeepsFocus v w) : KeepsFocus w v :=
  ⟨keeps.outcome.symm, keeps.focus.symm, keeps.link.symm, keeps.canvas.symm⟩

theorem SameFocus.keeps (same : SameFocus v w) : KeepsFocus v w where
  outcome := same.outcome
  focus := congrArg Interaction.focus same.interaction
  link := congrArg Interaction.hoveredLink same.interaction
  canvas := same.canvas ▸ .refl v.canvas

theorem Rests.keeps (rests : Rests v w) : KeepsFocus v w where
  outcome := rests.outcome
  focus := congrArg Interaction.focus rests.interaction
  link := congrArg Interaction.hoveredLink rests.interaction
  canvas := rests.canvas

/-- What is open or searched for does not matter. -/
theorem keepsFocus_with (v : View W N) (fullscreen : Bool) (search : String) (searchOpen isOpen : Bool) :
    KeepsFocus v { v with
      fullscreen := fullscreen, search := search, searchOpen := searchOpen
      merge := { v.merge with isOpen := isOpen } } :=
  ⟨rfl, rfl, rfl, .refl v.canvas⟩

theorem restsOn_hover (v : View W N) (l : Layout W N) {target : Hover} (pointer : l.pointer = target) :
    RestsOn v target ((v.withLayout l).hover target) := by
  have looks := ((looks_with v ..).trans (looks_hover (v.withLayout l) target) :
    Looks v ((v.withLayout l).hover target))
  refine ⟨looks.outcome, hover_withLayout v l target, l, ?_, pointer⟩
  unfold hover
  split <;> rfl

variable [Scalar W] [Narrowing W N]

/-- A selection reaches the view behind `w`, whatever the pointer has left there. -/
theorem selects_selected {target : Option NodeId} (rests : Rests v w) (shown : v.snapshot? = some s) :
    Selects v target (w.selected (w.interaction.select s target)).view where
  outcome := rests.outcome
  interaction := ⟨s, shown, rests.interaction ▸ rfl⟩
  canvas := rests.canvas.trans (w.canvas.sameNodes_obey _)

theorem selects_clickNode {id : NodeId} (rests : Rests v w) (shown : v.snapshot? = some s) :
    Selects v (v.clicked id) (w.clickNode id).view := by
  have shown' : w.snapshot? = some s := (snapshot?_of_looks rests.toLooks).trans shown
  have same : v.clicked id = if w.interaction.activeNode? = some id then none else some id := by
    rw [clicked, rests.interaction]
  rw [clickNode, shown', same]
  exact selects_selected rests shown

theorem selects_clearFocus (shown : v.snapshot? = some s) : Selects v none v.clearFocus.view := by
  rw [clearFocus, shown]
  exact selects_selected (.refl v) shown

theorem activate_selects (v : View W N) (id : NodeId) :
    (v.selects? (.use (.activate id)) = none ∧ KeepsFocus v (v.activate id).view) ∨
    (v.selects? (.use (.activate id)) = some (some id) ∧ Selects v (some id) (v.activate id).view) := by
  unfold activate
  split
  · exact .inl ⟨selects?_of_none ‹_› _, (Rests.refl v).keeps⟩
  · rename_i s shown
    have selects := selects?_of_some shown (.use (.activate id))
    by_cases contained : s.contains id = true
    · rw [if_pos contained]
      exact .inr ⟨selects.trans (if_pos contained), selects_selected (.refl v) shown⟩
    · rw [if_neg contained]
      exact .inl ⟨selects.trans (if_neg contained), (Rests.refl v).keeps⟩

/-- A control selects what `selects?` says, or leaves the focus alone. -/
theorem handle_selects (v : View W N) (m : Message) :
    (v.selects? (.use m) = none ∧ KeepsFocus v (v.handle m).view) ∨
    ∃ target, v.selects? (.use m) = some target ∧ Selects v target (v.handle m).view := by
  cases m with
  | toggleSearch => exact .inl ⟨by simp [selects?], keepsFocus_with v ..⟩
  | searchFor query => exact .inl ⟨by simp [selects?], keepsFocus_with v ..⟩
  | openMerges => exact .inl ⟨by simp [selects?], keepsFocus_with v ..⟩
  | refresh => exact .inl ⟨by simp [selects?], v.sameFocus_refresh.keeps⟩
  | toggleFullscreen => exact .inl ⟨by simp [selects?], rfl, rfl, rfl, v.canvas.sameNodes_fit⟩
  | toggleType key => exact .inl ⟨by simp [selects?], rfl, rfl, rfl, .refl v.canvas⟩
  | answer suggestion action =>
    exact .inl ⟨by simp [selects?], (v.sameFocus_answer suggestion action).keeps⟩
  | activate id =>
    exact (v.activate_selects id).imp_right fun selects => ⟨some id, selects⟩
  | pick id =>
    cases shown : v.snapshot? with
    | none =>
      refine .inl ⟨selects?_of_none shown _, ?_⟩
      rw [handle, clickNode, shown]
      exact keepsFocus_with v ..
    | some s =>
      have selects : Selects v (v.clicked id) (v.clickNode id).view := selects_clickNode (.refl v) shown
      exact .inr ⟨_, selects?_of_some shown _, selects.outcome, selects.interaction, selects.canvas⟩
  | clearFocus =>
    cases shown : v.snapshot? with
    | none =>
      refine .inl ⟨selects?_of_none shown _, ?_⟩
      rw [handle, clearFocus, shown]
      exact (Rests.refl v).keeps
    | some s => exact .inr ⟨none, selects?_of_some shown _, selects_clearFocus shown⟩
  | closeMerges =>
    cases shown : v.snapshot? with
    | none =>
      refine .inl ⟨selects?_of_none shown _, ?_⟩
      rw [handle, clearFocus, shown]
      exact keepsFocus_with v ..
    | some s =>
      have selects := selects_clearFocus shown
      exact .inr ⟨none, selects?_of_some shown _, selects.outcome, selects.interaction, selects.canvas⟩

/-- What the pointer comes to rest on by an event: whatever a move finds, or nothing. -/
def Finds (v : View W N) (e : PointerEvent W) (target : Hover) : Prop :=
  target = .nothing ∨ ∃ screen l, e = .move screen ∧ v.canvas.layout = some l ∧
    l.under (v.canvas.pointAt screen) v.targets = target

variable [Scalar N]

/-- The pointer selects with a click on a node, hovers what it comes to rest on, or leaves the focus alone. -/
theorem point_selects (v : View W N) (e : PointerEvent W) :
    (v.selects? (.point e) = none ∧ KeepsFocus v (v.point e).view) ∨
    (∃ target, v.selects? (.point e) = some target ∧ Selects v target (v.point e).view) ∨
    (v.selects? (.point e) = none ∧ ∃ target, v.Finds e target ∧ RestsOn v target (v.point e).view) := by
  unfold point
  split
  · rename_i absent
    refine .inl ⟨?_, (Rests.refl v).keeps⟩
    cases e <;> simp [selects?, absent]
  · rename_i l present
    cases e with
    | down screen =>
      exact .inl ⟨by simp [selects?], (rests_withLayout present (l.sameNodes_pointerDown _ _)).keeps⟩
    | wheel screen turn =>
      exact .inl ⟨by simp [selects?], (rests_withLayout present (l.sameNodes_wheel _ _)).keeps⟩
    | move screen =>
      have unselected : v.selects? (.point (.move screen)) = none := by simp [selects?]
      rw [pointOn_move]
      rcases l.pointerMove_finds (v.canvas.pointAt screen) v.targets with ⟨silent, same⟩ | ⟨report, moved⟩
      · rw [silent]
        exact .inl ⟨unselected, (rests_withLayout present same).keeps⟩
      · rw [report, moved]
        exact .inr (.inr ⟨unselected, _, .inr ⟨screen, l, rfl, present, rfl⟩, restsOn_hover v _ rfl⟩)
    | up =>
      rw [pointOn_up]
      have rests := rests_withLayout present l.sameNodes_pointerUp
      cases clicked : l.pointerUp.2 with
      | none => exact .inl ⟨by simp [selects?, present, clicked], rests.keeps⟩
      | some id =>
        cases shown : v.snapshot? with
        | none =>
          refine .inl ⟨selects?_of_none shown _, ?_⟩
          have unshown : (v.withLayout l.pointerUp.1).snapshot? = none := shown
          show KeepsFocus v ((v.withLayout l.pointerUp.1).clickNode id).view
          rw [clickNode, unshown]
          exact rests.keeps
        | some s =>
          refine .inr (.inl ⟨_, ?_, selects_clickNode rests shown⟩)
          simp [selects?_of_some shown, present, clicked]
    | leave =>
      have unselected : v.selects? (.point .leave) = none := by simp [selects?]
      rw [pointOn_leave]
      cases hovering : l.pointerLeave.2 with
      | true => exact .inr (.inr ⟨unselected, .nothing, .inl rfl, restsOn_hover v _ rfl⟩)
      | false =>
        have idle : l.pointer = .nothing := by simpa [Layout.pointerLeave] using hovering
        have same : l.SameNodes l.pointerLeave.1 := ⟨rfl, idle.symm⟩
        exact .inl ⟨unselected, (rests_withLayout present same).keeps⟩

theorem keepsFocus_frame {measure : Measure W} {strokes : List (Stroke W)}
    (painted : v.frame? measure = some (w, strokes)) : KeepsFocus v w := by
  unfold frame? at painted
  split at painted
  · cases painted
    exact (Rests.refl v).keeps
  · obtain ⟨l, ticked, same⟩ := Option.map_eq_some_iff.1 painted
    cases same
    exact (rests_withLayout ‹_› (Layout.sameNodes_tick ticked)).keeps

end View

/-! ## One step -/

namespace Session

variable {start s next : Session W N} {events : List (Event W)} {e : Event W} {id : NodeId}

variable [Scalar W] [Scalar N] [Narrowing W N]

/-- All that a step can do to the focus, and which events do it. -/
inductive Attends (s : Session W N) (e : Event W) (next : Session W N) : Prop
  | keeps : s.view.selects? e = none → s.view.KeepsFocus next.view → Attends s e next
  | selects {target : Option NodeId} : s.view.selects? e = some target →
      s.view.Selects target next.view → Attends s e next
  | rests {event : PointerEvent W} {target : Hover} : s.view.selects? e = none → e = .point event →
      s.view.Finds event target → s.view.RestsOn target next.view → Attends s e next
  | drops : s.view.selects? e = none → s.view.Drops next.view → Attends s e next
  | settles {collection : CollectionId} {ticket : Ticket} {answer : Option Reply} :
      s.view.selects? e = none → e = .reply (.graph collection ticket) answer →
      .graph collection ticket ∈ s.waiting → s.view.graphTickets.isCurrent ticket = true →
      next.view = s.view.settle (s.view.client.graph collection s.view.access answer).1 → Attends s e next

theorem Step.attends (step : Step s e next) : Attends s e next := by
  cases step with
  | @use m _ =>
    rcases s.view.handle_selects m with ⟨unselected, keeps⟩ | ⟨target, selected, selects⟩
    · exact .keeps unselected keeps
    · exact .selects selected selects
  | point event =>
    rcases s.view.point_selects event with ⟨unselected, keeps⟩ | ⟨target, selected, selects⟩ |
      ⟨unselected, target, finds, rests⟩
    · exact .keeps unselected keeps
    · exact .selects selected selects
    · exact .rests unselected rfl finds rests
  | navigate route =>
    have unselected : s.view.selects? (.navigate route) = none := by simp [View.selects?]
    by_cases same : route = s.view.route
    · rw [View.navigate, if_pos same]
      exact .keeps unselected (View.Rests.refl s.view).keeps
    · rw [View.navigate, if_neg same]
      rcases s.entered_focus route with kept | drops
      · exact .keeps unselected kept.keeps
      · exact .drops unselected drops
  | resize room =>
    exact .keeps (by simp [View.selects?]) (View.rests_canvas (s.view.canvas.sameNodes_moveTo room)).keeps
  | frame painted => exact .keeps (by simp [View.selects?]) (View.keepsFocus_frame painted)
  | reply call answer waiting =>
    have unselected : s.view.selects? (.reply call answer) = none := by simp [View.selects?]
    rcases s.ended_focus call answer with kept | ⟨collection, ticket, rfl, current, view⟩
    · exact .keeps unselected kept.keeps
    · exact .settles unselected rfl waiting current view

/-! ## What is active -/

/-- A node that is active after a step was active before, or the step has selected it. -/
theorem Attends.active (attends : Attends s e next) (active : next.view.interaction.activeNode? = some id) :
    s.view.interaction.activeNode? = some id ∨ s.view.selects? e = some (some id) := by
  rw [Interaction.activeNode?_eq_some_iff] at active ⊢
  cases attends with
  | keeps _ keeps => exact .inl (keeps.focus ▸ active)
  | @selects target selected selects =>
    obtain ⟨_, _, same⟩ := selects.interaction
    rw [same] at active
    cases target with
    | none => simp [Interaction.select] at active
    | some other =>
      have equal : other = id := by simpa [Interaction.select] using active
      exact .inr (equal ▸ selected)
  | rests _ _ _ rests =>
    rw [← Interaction.activeNode?_eq_some_iff] at active ⊢
    rw [rests.interaction, View.hover] at active
    split at active
    · exact .inl active
    · rw [Interaction.hover_activeNode?] at active
      exact .inl active
  | drops _ drops =>
    rw [drops.interaction] at active
    cases active
  | settles _ _ _ _ view =>
    refine .inl ?_
    rw [view] at active
    generalize (s.view.client.graph _ s.view.access _).1 = result at active
    cases result with
    | error failure => exact active
    | ok loaded =>
      obtain ⟨_, _, interaction, _⟩ := s.view.adopt_shows loaded
      rw [View.settle, interaction, Interaction.adopt, Interaction.highlight_focus] at active
      exact Interaction.active_of_keepFocus active

/-- Nobody selects a node on the way of the run. -/
def NoneSelected (start : Session W N) (events : List (Event W)) : Prop :=
  ∀ {before e after id}, Passes start events before e after → before.view.selects? e ≠ some (some id)

theorem Passes.snoc {before after : Session W N} {last : Event W} (passes : Passes start events before e after) :
    Passes start (events ++ [last]) before e after := by
  obtain ⟨earlier, later, rfl, run, step⟩ := passes
  exact ⟨earlier, later ++ [last], by simp, run, step⟩

/-- What is active at the end of such a run was active all along. -/
theorem Run.active (run : Run start events s) (unselected : NoneSelected start events)
    (active : s.view.interaction.activeNode? = some id) : start.view.interaction.activeNode? = some id := by
  induction run with
  | nil => exact active
  | @snoc earlier s next e run step ih =>
    rcases step.attends.active active with before | selected
    · exact ih (fun passes => unselected passes.snoc) before
    · exact absurd selected (unselected ⟨earlier, [], rfl, run, step⟩)

end Session

end GraphViewer

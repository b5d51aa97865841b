import GraphViewer.Proofs.Hovering
/-
What the canvas owes to a collection that was shown before. With another collection the view drops what it
holds of the one before, but the canvas keeps its layout. So the first snapshot of the new collection is laid
out over the old nodes: a node whose id had a place there takes that place, pinned or not, and only the others
stand where they would on a new canvas.
-/

namespace GraphViewer

/-- Where a node of a layout stands, and whether it is pinned there. -/
structure Place (α : Type) where
  x : α
  y : α
  pinned : Bool
  deriving DecidableEq, Repr

def Particle.place {α : Type} (p : Particle α) : Place α :=
  ⟨p.x, p.y, p.pinned⟩

variable {W N : Type}

/-! ## The places of a new snapshot -/

namespace Layout

variable {l m : Layout W N} {s : Snapshot} {id : NodeId}

def places (l : Layout W N) : List (Place N) :=
  l.particles.map Particle.place

/-- Where the last node with an id stands. -/
def placeOf? (l : Layout W N) (id : NodeId) : Option (Place N) :=
  (particleIn? l.particles id).map Particle.place

theorem mem_ids_iff : id ∈ l.ids ↔ ∃ place, l.placeOf? id = some place := by
  rw [← Option.isSome_iff_exists, placeOf?, Option.isSome_map, particleIn?, List.find?_isSome]
  simp [ids, Physics.ids, particles]

theorem placeOf?_eq_none_iff : l.placeOf? id = none ↔ id ∉ l.ids := by
  rw [mem_ids_iff, not_exists, Option.eq_none_iff_forall_ne_some]

variable [Scalar W] [Scalar N] [Narrowing W N]

/-- Where the node at an index of a snapshot starts. -/
def start (s : Snapshot) (n : Node) (i : Nat) : Place N :=
  (seed (W := W) n.id i s.nodes.length).place

/-- Where it stands once the snapshot is laid out over another layout. -/
def laidOver (l : Layout W N) (s : Snapshot) (n : Node) (i : Nat) : Place N :=
  (l.placeOf? n.id).getD (start (W := W) s n i)

theorem places_load (l : Layout W N) (s : Snapshot) :
    (l.load s).places = s.nodes.zipIdx.map fun p => l.laidOver s p.1 p.2 := by
  rw [places, particles, load, List.map_map]
  refine List.map_congr_left fun p _ => ?_
  show (settle (W := W) l.particles s.nodes.length p.2 p.1.id).place = l.laidOver s p.1 p.2
  rw [settle, laidOver, placeOf?]
  cases particleIn? l.particles p.1.id <;> rfl

theorem places_load_at {n : Node} {i : Nat} (present : s.nodes[i]? = some n) :
    (l.load s).places[i]? = some (l.laidOver s n i) := by
  simp [places_load, List.getElem?_map, List.getElem?_zipIdx, present]

/-- Two layouts place a snapshot alike exactly if they place each node of it alike. -/
theorem places_load_eq_iff : (l.load s).places = (m.load s).places ↔
    ∀ {n i}, s.nodes[i]? = some n → l.laidOver s n i = m.laidOver s n i := by
  rw [places_load, places_load, List.map_inj_left]
  constructor
  · intro alike n i present
    exact alike (n, i) (List.mk_mem_zipIdx_iff_getElem?.2 present)
  · intro alike (n, i) member
    exact alike (List.mk_mem_zipIdx_iff_getElem?.1 member)

/-- On a new canvas every node stands at its start. -/
theorem laidOver_create (width height : W) (s : Snapshot) (n : Node) (i : Nat) :
    (create width height : Layout W N).laidOver s n i = start (W := W) s n i :=
  rfl

theorem laidOver_of_placed {n : Node} {place : Place N} (placed : l.placeOf? n.id = some place) (i : Nat) :
    l.laidOver s n i = place := by
  rw [laidOver, placed]
  rfl

theorem laidOver_of_unplaced {n : Node} (unplaced : l.placeOf? n.id = none) (i : Nat) :
    l.laidOver s n i = start (W := W) s n i := by
  rw [laidOver, unplaced]
  rfl

/-- A snapshot is laid out as on a new canvas exactly if the nodes that had a place before were at their
start. -/
theorem places_load_fresh_iff (width height : W) :
    (l.load s).places = ((create width height : Layout W N).load s).places ↔
      ∀ {n : Node} {i : Nat} {place : Place N}, s.nodes[i]? = some n → l.placeOf? n.id = some place →
        place = start (W := W) s n i := by
  rw [places_load_eq_iff]
  constructor
  · intro alike n i place present placed
    rw [← laidOver_of_placed placed i, alike present, laidOver_create]
  · intro unmoved n i present
    rw [laidOver_create]
    cases placed : l.placeOf? n.id with
    | none => exact laidOver_of_unplaced placed i
    | some place => rw [laidOver_of_placed placed, unmoved present placed]

end Layout

namespace View

variable {v w : View W N}

/-- The ids that have a place on the canvas, if it has a layout. -/
def laidOut? (v : View W N) : Option (List NodeId) :=
  v.canvas.layout.map Layout.ids

theorem laidOut?_of_sameNodes (same : v.canvas.SameNodes w.canvas) : w.laidOut? = v.laidOut? := by
  rw [Canvas.SameNodes] at same
  rw [laidOut?, laidOut?]
  generalize v.canvas.layout = before, w.canvas.layout = after at same ⊢
  cases same with
  | none => rfl
  | some same => exact congrArg some same.1

theorem Glance.laidOut? (glance : Glance v w) : w.laidOut? = v.laidOut? := by
  cases glance with
  | rests rests => exact laidOut?_of_sameNodes rests.canvas
  | toggles _ _ _ canvas => exact laidOut?_of_sameNodes canvas
  | selects _ _ _ _ _ canvas => exact laidOut?_of_sameNodes canvas
  | hovers _ present _ _ next =>
    obtain ⟨l, after, ids, _⟩ := next
    rw [View.laidOut?, View.laidOut?, present, after]
    exact congrArg some ids

variable [Scalar W] [Scalar N] [Narrowing W N]

/-- A snapshot is laid out over what the canvas shows. -/
theorem adopt_places {l : Layout W N} (present : v.canvas.layout = some l) (loaded : Loaded) :
    ∃ m, (v.adopt loaded).canvas.layout = some m ∧ m.places = (l.load loaded.snapshot).places := by
  rw [adopt]
  obtain ⟨interaction, aim⟩ := v.interaction.adopt loaded.snapshot loaded.groups
  cases aim with
  | none =>
    refine ⟨l.load loaded.snapshot, ?_, rfl⟩
    show (v.canvas.load loaded.snapshot).layout = _
    rw [Canvas.load, Canvas.withLayout, present]
    rfl
  | some aim =>
    -- the camera is sent somewhere first, which moves no node
    refine ⟨(l.obey (CameraOrder.ofAim aim)).load loaded.snapshot, ?_, ?_⟩
    · show ((v.canvas.obey aim).load loaded.snapshot).layout = _
      rw [Canvas.load, Canvas.obey, Canvas.withLayout, Canvas.withLayout, present]
      rfl
    · rw [Layout.places_load_eq_iff]
      intro n i _
      rfl

end View

namespace Session

variable {start s next before : Session W N} {events : List (Event W)} {e : Event W} {snapshot : Snapshot}

variable [Scalar W] [Scalar N] [Narrowing W N]

/-- Until another snapshot is shown the same nodes have a place. -/
theorem Step.laidOut? (step : Step s e next) (unshown : next.view.snapshot? = none) :
    next.view.laidOut? = s.view.laidOut? := by
  rcases step.effect.focus with glance | same | drops | ⟨collection, _, answer, _, _, _, view⟩
  · exact glance.laidOut?
  · rw [View.laidOut?, View.laidOut?, same.canvas]
  · rw [View.laidOut?, View.laidOut?, drops.canvas]
  · rw [view] at unshown ⊢
    generalize (s.view.client.graph collection s.view.access answer).1 = result at unshown ⊢
    cases result with
    | error failure => rfl
    | ok loaded =>
      have shown := congrArg Outcome.snapshot? (s.view.adopt_shows loaded).1
      cases unshown.symm.trans shown

/-- With another collection nothing is shown at first. -/
theorem Step.unshown {a b : CollectionId} (step : Step s e next) (here : s.view.scope.shown = some a)
    (there : next.view.scope.shown = some b) (other : a ≠ b) : next.view.snapshot? = none := by
  have moved : ¬ ∀ collection, s.view.scope.shown = some collection →
      next.view.scope.shown = some collection := by
    intro kept
    cases there.symm.trans (kept a here)
    exact other rfl
  rcases step.effect.shows with ⟨_, _, _, kept⟩ | ⟨outcome, _, _⟩ | ⟨call, answer, _, _, rfl⟩
  · exact absurd kept moved
  · exact congrArg Outcome.snapshot? outcome
  · exact absurd (s.ended_shown call answer) moved

/-- The view left a collection for another one when something happened to `before`, and has shown no snapshot
since then. -/
inductive Awaits (start : Session W N) : List (Event W) → Session W N → Session W N → Prop
  | left {events : List (Event W)} {before after : Session W N} {e : Event W} {a b : CollectionId} :
      Run start events before → Step before e after → before.view.scope.shown = some a →
      after.view.scope.shown = some b → a ≠ b → Awaits start (events ++ [e]) before after
  | still {events : List (Event W)} {before s next : Session W N} {e : Event W} :
      Awaits start events before s → Step s e next → next.view.snapshot? = none →
      Awaits start (events ++ [e]) before next

theorem Awaits.run (awaits : Awaits start events before s) : ∃ earlier, Run start earlier before := by
  induction awaits with
  | left run _ _ _ _ => exact ⟨_, run⟩
  | still _ _ _ ih => exact ih

theorem Awaits.unshown (awaits : Awaits start events before s) : s.view.snapshot? = none := by
  cases awaits with
  | left _ step here there other => exact step.unshown here there other
  | still _ _ unshown => exact unshown

/-- All that time the canvas keeps the nodes of the collection that was left. -/
theorem Awaits.laidOut? (awaits : Awaits start events before s) : s.view.laidOut? = before.view.laidOut? := by
  induction awaits with
  | left _ step here there other => exact step.laidOut? (step.unshown here there other)
  | still _ step unshown ih => exact (step.laidOut? unshown).trans ih

/-- A snapshot comes to be shown only by the end of a call for a graph, which lays it out. -/
theorem Step.lays {l : Layout W N} (step : Step s e next) (unshown : s.view.snapshot? = none)
    (loaded : next.view.outcome = .loaded snapshot) (present : s.view.canvas.layout = some l) :
    ∃ m, next.view.canvas.layout = some m ∧ m.places = (l.load snapshot).places := by
  -- nothing was shown, so a step that keeps the outcome is out of the question
  have same (outcome : next.view.outcome = s.view.outcome) : False := by
    have shown := congrArg Outcome.snapshot? (outcome.symm.trans loaded)
    cases unshown.symm.trans shown
  rcases step.effect.focus with glance | still | drops | ⟨collection, _, answer, _, _, _, view⟩
  · exact (same glance.looks.outcome).elim
  · exact (same still.outcome).elim
  · cases drops.outcome.symm.trans loaded
  · rw [view] at loaded ⊢
    generalize (s.view.client.graph collection s.view.access answer).1 = result at loaded ⊢
    cases result with
    | error failure => cases loaded
    | ok found =>
      obtain ⟨m, after, places⟩ := View.adopt_places present found
      cases (s.view.adopt_shows found).1.symm.trans loaded
      exact ⟨m, after, places⟩

/-- A layout `m` of a snapshot, made over a layout `l` that has been on the canvas since the view left another
collection; the ids that had a place then are `left`. -/
structure Carries (left : List NodeId) (l m : Layout W N) (snapshot : Snapshot) : Prop where
  /-- A node whose id had no place then stands at its start, -/
  strange : ∀ {n : Node} {i : Nat}, snapshot.nodes[i]? = some n → n.id ∉ left →
    m.places[i]? = some (Layout.start (W := W) snapshot n i)
  /-- and any other one where the last node with that id stood, pinned as that was. -/
  carried : ∀ {n : Node} {i : Nat}, snapshot.nodes[i]? = some n → n.id ∈ left →
    ∃ place, l.placeOf? n.id = some place ∧ m.places[i]? = some place
  /-- So the nodes stand as on a new canvas exactly if those others were at their start. -/
  fresh_iff : ∀ width height, m.places = ((Layout.create width height : Layout W N).load snapshot).places ↔
    ∀ {n : Node} {i : Nat} {place : Place N}, snapshot.nodes[i]? = some n → l.placeOf? n.id = some place →
      place = Layout.start (W := W) snapshot n i
  /-- After another history they stand the same exactly if both histories place each node alike. -/
  agree_iff : ∀ {start before s next : Session W N} {events : List (Event W)} {e : Event W}
    {l' m' : Layout W N}, Awaits start events before s → Step s e next →
    next.view.outcome = .loaded snapshot → s.view.canvas.layout = some l' →
    next.view.canvas.layout = some m' →
    (m.places = m'.places ↔ ∀ {n : Node} {i : Nat}, snapshot.nodes[i]? = some n →
      l.laidOver snapshot n i = l'.laidOver snapshot n i)

theorem carries_of_places {l m : Layout W N} (places : m.places = (l.load snapshot).places) :
    Carries l.ids l m snapshot where
  strange := by
    intro n i present unknown
    have unplaced := Layout.placeOf?_eq_none_iff.2 unknown
    rw [places, Layout.places_load_at present, Layout.laidOver_of_unplaced unplaced]
  carried := by
    intro n i present known
    obtain ⟨place, placed⟩ := Layout.mem_ids_iff.1 known
    exact ⟨place, placed, by rw [places, Layout.places_load_at present, Layout.laidOver_of_placed placed]⟩
  fresh_iff := by
    intro width height
    rw [places]
    exact Layout.places_load_fresh_iff width height
  agree_iff := by
    intro _ _ _ _ _ _ l' m' awaits step loaded present after
    obtain ⟨other, isOther, places'⟩ := step.lays awaits.unshown loaded present
    cases after.symm.trans isOther
    rw [places, places', Layout.places_load_eq_iff]

/-- The first snapshot that is shown after the view has left a collection is laid out over the nodes of that
collection: those of the snapshot that was shown of it, if there was one at the end. -/
theorem first_load_carries {config : Config} {access : Access} {route : Option String} {site : Site W}
    {l : Layout W N} (awaits : Awaits (mount config access route site) events before s) (step : Step s e next)
    (loaded : next.view.outcome = .loaded snapshot) (present : s.view.canvas.layout = some l) :
    ∃ left m, before.view.laidOut? = some left ∧
      (∀ {shown}, before.view.snapshot? = some shown → left = shown.nodes.map Node.id) ∧
      next.view.canvas.layout = some m ∧ Carries left l m snapshot := by
  obtain ⟨m, after, places⟩ := step.lays awaits.unshown loaded present
  have left : before.view.laidOut? = some l.ids := by
    rw [← awaits.laidOut?, View.laidOut?, present]
    rfl
  have shows : ∀ {shown}, before.view.snapshot? = some shown → l.ids = shown.nodes.map Node.id := by
    intro shown isShown
    obtain ⟨earlier, run⟩ := awaits.run
    obtain ⟨k, was, ids⟩ := Option.map_eq_some_iff.1 left
    exact ids.symm.trans ((inStep_run run).places isShown was)
  exact ⟨l.ids, m, left, shows, after, carries_of_places places⟩

/-! ## A closed run -/

attribute [local instance] instScalarInt instNarrowingInt

/-- The only node of a collection is dragged, and then the route leads to another collection. -/
def draggedAway : List (Event Int) :=
  [.reply (.graph collectionA ⟨1⟩) oneNode, .point (.down ⟨500, 300⟩), .point (.move ⟨560, 300⟩), .point .up,
    .navigate (some "B")]

/-- The first snapshot of the other collection is laid out over the dragged node. -/
theorem awaits_draggedAway : ∃ before s next : Session Int Int,
    Awaits (mount {} .owned (some "A") ⟨none, ⟨0, 0⟩, true⟩) draggedAway before s ∧
      Step s (.reply (.graph collectionB ⟨2⟩) oneNode) next ∧ before.view.laidOut? = some ["a"] ∧
      s.view.canvas.layout.isSome = true ∧ next.view.scope.shown = some collectionB ∧
      next.view.canvas.layout.map Layout.places = some [⟨160, 0, true⟩] ∧
      (next.view.snapshot?.map fun shown => ((Layout.create 800 600 : Layout Int Int).load shown).places) =
        some [⟨100, 0, false⟩] := by
  let start : Session Int Int := mount {} .owned (some "A") ⟨none, ⟨0, 0⟩, true⟩
  have nothing : Run start [] start := .nil
  have loaded := nothing.snoc (.reply (.graph collectionA ⟨1⟩) oneNode (by decide +kernel))
  have pressed := loaded.snoc (.point (.down ⟨500, 300⟩))
  have dragged := (pressed.snoc (.point (.move ⟨560, 300⟩))).snoc (.point .up)
  have leaves {events} {s : Session Int Int} (run : Run start events s)
      (here : s.view.scope.shown = some collectionA)
      (there : (s.follow (s.view.navigate (some "B"))).view.scope.shown = some collectionB) :
      Awaits start (events ++ [.navigate (some "B")]) s (s.follow (s.view.navigate (some "B"))) :=
    .left run (.navigate (some "B")) here there (by decide +kernel)
  have left := leaves dragged (by decide +kernel) (by decide +kernel)
  have reads {events} {before s : Session Int Int} (_ : Awaits start events before s)
      (waiting : .graph collectionB ⟨2⟩ ∈ s.waiting) :
      Step s (.reply (.graph collectionB ⟨2⟩) oneNode) (s.ended (.graph collectionB ⟨2⟩) oneNode) :=
    .reply _ _ waiting
  have read := reads left (by decide +kernel)
  exact ⟨_, _, _, left, read, by decide +kernel, by decide +kernel, by decide +kernel, by decide +kernel,
    by decide +kernel⟩

/-- The node stands where the one with its id was dragged in the other collection. -/
theorem first_load_carries_dragged : ∃ (l m : Layout Int Int) (snapshot : Snapshot),
    Carries ["a"] l m snapshot ∧ m.places = [⟨160, 0, true⟩] := by
  obtain ⟨before, s, next, left, read, laidOut, present, _, places, fresh⟩ := awaits_draggedAway
  obtain ⟨snapshot, shown, _⟩ := Option.map_eq_some_iff.1 fresh
  obtain ⟨l, present⟩ := Option.isSome_iff_exists.1 present
  obtain ⟨ids, m, isLeft, _, after, carries⟩ :=
    first_load_carries left read (View.outcome_of_snapshot? shown) present
  cases laidOut.symm.trans isLeft
  rw [after] at places
  exact ⟨l, m, snapshot, carries, Option.some.inj places⟩

/-- On a new canvas it would stand elsewhere, and would not be pinned. -/
theorem places_leak : ∃ (before s next : Session Int Int) (snapshot : Snapshot) (m : Layout Int Int),
    Awaits (mount {} .owned (some "A") ⟨none, ⟨0, 0⟩, true⟩) draggedAway before s ∧
      Step s (.reply (.graph collectionB ⟨2⟩) oneNode) next ∧ next.view.scope.shown = some collectionB ∧
      next.view.outcome = .loaded snapshot ∧ next.view.canvas.layout = some m ∧
      m.places = [⟨160, 0, true⟩] ∧
      ((Layout.create 800 600 : Layout Int Int).load snapshot).places = [⟨100, 0, false⟩] := by
  obtain ⟨before, s, next, left, read, _, _, shownB, places, fresh⟩ := awaits_draggedAway
  obtain ⟨snapshot, shown, start⟩ := Option.map_eq_some_iff.1 fresh
  obtain ⟨m, after, places⟩ := Option.map_eq_some_iff.1 places
  exact ⟨before, s, next, snapshot, m, left, read, shownB, View.outcome_of_snapshot? shown, after, places,
    start⟩

end Session

end GraphViewer

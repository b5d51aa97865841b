import GraphViewer.Proofs.Grip
/-
What a press on a node comes to. While the pointer is pressed it may go anywhere, the wheel may be turned, time may
pass, the camera may be sent somewhere and the canvas may change its size. The release is a click on the node just
if the pointer was near the press all the time, however often it came back. Up to its first point that is not near,
the press and the moves change nothing: all comes out as if there were none. The only thing that can break down on
the way is time, which cannot pass while an edge joins a node to itself.
-/

namespace GraphViewer

namespace Physics

variable {α : Type} [Scalar α]

/-! ## Links -/

omit [Scalar α] in
theorem links_foldl {step : Physics α → Nat → Physics α} (each : ∀ s j, (step s j).links = s.links)
    (js : List Nat) (s : Physics α) : (js.foldl step s).links = s.links := by
  induction js generalizing s with
  | nil => rfl
  | cons j js ih => exact (ih (step s j)).trans (each s j)

theorem links_spring (dt : α) (i : Nat) (s : Physics α) (j : Nat) : (s.spring dt i j).links = s.links := by
  unfold spring
  split <;> rfl

theorem links_repel (dt : α) (i : Nat) (s : Physics α) (j : Nat) : (s.repel dt i j).links = s.links := by
  unfold repel
  split <;> rfl

theorem links_advance (dt : α) (s : Physics α) (i : Nat) : (s.advance dt i).links = s.links := by
  rw [advance]
  exact (links_foldl (links_repel dt i) _ _).trans (links_foldl (links_spring dt i) _ s)

/-- Time makes no links and takes none away. -/
theorem links_update {s next : Physics α} {dt : α} (updated : s.update? dt = some next) :
    next.links = s.links := by
  unfold update? at updated
  split at updated
  · cases updated
  · cases updated
    exact links_foldl (links_advance dt) _ s

/-- Time passes if no particle is linked to itself. -/
theorem update?_isSome (s : Physics α) (dt : α) : (s.update? dt).isSome = true ↔ s.hasLoop = false := by
  unfold update?
  cases s.hasLoop <;> simp

end Physics

namespace Layout

variable {W N : Type} [Scalar W] [Scalar N] [Narrowing W N]

/-- What may happen from a press to the next release: no other press, and no new snapshot. -/
def Change.whilePressed : Change W N → Bool
  | .move _ _ | .wheel _ _ | .tick _ | .resize _ _ | .obey _ => true
  | .load _ | .down _ _ | .up | .leave => false

/-- Some changes without the moves of the pointer. -/
def unmoved (changes : List (Change W N)) : List (Change W N) :=
  changes.filter (·.goesTo?.isNone)

variable {l m next : Layout W N} {changes earlier : List (Change W N)} {c : Change W N} {p q : Point W}
  {t : Targets W} {i : Nat} {id : NodeId}

omit [Scalar N] in
theorem letsGo_of_whilePressed (pressed : c.whilePressed = true) : m.letsGo c = false := by
  cases c <;> first | rfl | cases pressed

/-! ## Breaking down -/

theorem links_undergo (step : l.undergo? c = some next) (pressed : c.whilePressed = true) :
    next.physics.links = l.physics.links := by
  cases c with
  | move q u =>
    cases step
    unfold pointerMove
    split
    · dsimp only [dragTo]
      split <;> rfl
    · rfl
    · dsimp only
      split <;> rfl
  | tick dt =>
    obtain ⟨_, _, _, updated, rfl⟩ := exists_of_tick step
    exact Physics.links_update updated
  | wheel q turn =>
    cases step
    rfl
  | resize width height =>
    cases step
    rfl
  | obey order =>
    cases step
    rfl
  | _ => cases pressed

theorem undergo?_isSome (pressed : c.whilePressed = true) :
    (l.undergo? c).isSome = true ↔ ((∃ dt, c = .tick dt) → l.physics.hasLoop = false) := by
  cases c with
  | tick dt =>
    have passes : (l.undergo? (.tick dt)).isSome = (l.physics.update? dt).isSome := by
      simp only [undergo?, tick?]
      cases l.physics.update? dt <;> rfl
    rw [passes, Physics.update?_isSome]
    simp
  | _ => simp [undergo?]

/-! ## While the pointer is pressed -/

/-- The nodes and the links stay the same. -/
theorem frame_press (pressed : ∀ c ∈ changes, c.whilePressed = true)
    (run : l.after? (.down p t :: changes) = some m) :
    m.ids = l.ids ∧ m.physics.links = l.physics.links := by
  induction changes using List.reverseRecOn generalizing m with
  | nil =>
    cases run
    exact ⟨(l.sameNodes_pointerDown p t).1, congrArg Physics.links (l.physics_pointerDown p t)⟩
  | append_singleton changes c ih =>
    obtain ⟨before, reached, step⟩ := after?_cons_concat_iff.1 run
    obtain ⟨ids, links⟩ := ih (fun b member => pressed b (List.mem_append_left _ member)) reached
    have kind : c.whilePressed = true := pressed c (by simp)
    refine ⟨?_, (links_undergo step kind).trans links⟩
    rcases ids_undergo step with ⟨s, rfl, _⟩ | ⟨_, same⟩
    · cases kind
    · exact same.trans ids

/-- A run breaks down just when time would have to pass while an edge joins a node to itself. -/
theorem press_runs_iff (pressed : ∀ c ∈ changes, c.whilePressed = true) :
    (l.after? (.down p t :: changes)).isSome = true ↔
      ((∃ dt, .tick dt ∈ changes) → l.physics.hasLoop = false) := by
  induction changes using List.reverseRecOn with
  | nil => exact iff_of_true rfl nofun
  | append_singleton changes c ih =>
    have earlier : ∀ b ∈ changes, b.whilePressed = true := fun b member =>
      pressed b (List.mem_append_left _ member)
    have both : (∃ dt, Change.tick dt ∈ changes ++ [c]) ↔
        (∃ dt, .tick dt ∈ changes) ∨ ∃ dt, c = .tick dt := by
      simp only [List.mem_append, List.mem_singleton, exists_or, eq_comm]
    rw [← List.cons_append, after?_concat, both, or_imp, ← ih earlier]
    cases run : l.after? (.down p t :: changes) with
    | none => simp
    | some before =>
      have links : before.physics.hasLoop = l.physics.hasLoop := by
        rw [Physics.hasLoop, (frame_press earlier run).2, Physics.hasLoop]
      rw [Option.bind_some, undergo?_isSome (pressed c (by simp)), links]
      simp

theorem inHand_press (hit : l.nodeAt? p t.radius = some i) (pressed : ∀ c ∈ changes, c.whilePressed = true)
    (run : l.after? (.down p t :: changes) = some m) :
    InHand l (.down p t :: changes) i p (points changes) := by
  induction changes using List.reverseRecOn generalizing m with
  | nil =>
    have untouched : l.after? [] = some l := rfl
    exact .down untouched hit
  | append_singleton changes c ih =>
    obtain ⟨before, reached, step⟩ := after?_cons_concat_iff.1 run
    have hand := ih (fun b member => pressed b (List.mem_append_left _ member)) reached
    rw [points_concat, ← List.cons_append]
    exact hand.still reached (letsGo_of_whilePressed (pressed c (by simp)))

/-- There is a drag of the node, and it records the way of the pointer. -/
theorem drag_press (hit : l.nodeAt? p t.radius = some i) (pressed : ∀ c ∈ changes, c.whilePressed = true)
    (run : l.after? (.down p t :: changes) = some m) :
    ∃ d, m.drag = some d ∧ d.Records i p (points changes) :=
  drag_of_inHand (inHand_press hit pressed run) run

/-- A release is a click on the node unless the pointer has been far from the press. -/
theorem clicked_press (hit : l.nodeAt? p t.radius = some i) (named : l.ids[i]? = some id)
    (pressed : ∀ c ∈ changes, c.whilePressed = true) (run : l.after? (.down p t :: changes) = some m) :
    ((∃ q ∈ points changes, Far p q) → m.pointerUp.2 = none) ∧
      ((¬ ∃ q ∈ points changes, Far p q) → m.pointerUp.2 = some id) := by
  obtain ⟨d, held, records⟩ := drag_press hit pressed run
  have there : m.physics.particles[i]?.map Particle.id = some id := by
    rw [← Physics.getElem?_ids, ← named]
    exact congrArg (·[i]?) (frame_press pressed run).1
  rw [← records.moved, pointerUp, held]
  dsimp only
  rw [records.node, there]
  constructor
  · exact fun moved => if_pos moved
  · exact fun moved => if_neg moved

/-! ## As if there were no press -/

/-- What else happens does not look at a drag. -/
theorem undergo?_drag (pressed : c.whilePressed = true) (stays : c.goesTo? = none) (m : Layout W N)
    (drag : Option (Drag W N)) :
    { m with drag := drag }.undergo? c = (m.undergo? c).map ({ · with drag := drag }) := by
  cases c with
  | tick dt =>
    simp only [undergo?, tick?]
    cases m.physics.update? dt <;> rfl
  | wheel q turn => rfl
  | resize width height => rfl
  | obey order => rfl
  | move q u => cases stays
  | _ => cases pressed

/-- As long as the pointer is near, all comes out as without the press and the moves. -/
theorem after?_unmoved (hit : l.nodeAt? p t.radius = some i) (pressed : ∀ c ∈ changes, c.whilePressed = true)
    (near : ∀ q ∈ points changes, (q.minus p).length < clickSlop) :
    (l.after? (.down p t :: changes)).map ({ · with drag := l.drag }) = l.after? (unmoved changes) := by
  induction changes using List.reverseRecOn with
  | nil =>
    show some { l.pointerDown p t with drag := l.drag } = some l
    unfold pointerDown
    rw [hit]
  | append_singleton changes c ih =>
    have earlier : ∀ b ∈ changes, b.whilePressed = true := fun b member =>
      pressed b (List.mem_append_left _ member)
    rw [points_concat] at near
    have same := ih earlier fun q member => near q (List.mem_append_left _ member)
    rw [← List.cons_append, after?_concat]
    cases goes : c.goesTo? with
    | none =>
      have kept : unmoved (changes ++ [c]) = unmoved changes ++ [c] := by simp [unmoved, goes]
      rw [kept, after?_concat, ← same]
      cases l.after? (.down p t :: changes) with
      | none => rfl
      | some before => exact (undergo?_drag (pressed c (by simp)) goes before l.drag).symm
    | some q =>
      have dropped : unmoved (changes ++ [c]) = unmoved changes := by simp [unmoved, goes]
      rw [dropped, ← same]
      cases run : l.after? (.down p t :: changes) with
      | none => rfl
      | some before =>
        obtain ⟨u, rfl⟩ := move_of_goesTo goes
        obtain ⟨d, held, records⟩ := drag_press hit earlier run
        have still : ¬ d.Takes q := by
          rw [records.takes_iff]
          rintro ⟨r, passes, far⟩
          exact far (near r passes)
        show some { (before.pointerMove q u).1 with drag := l.drag } = some { before with drag := l.drag }
        rw [pointerMove_of_drag held, dragTo_of_not_takes still]

/-- What a press on the node at a place comes to over some changes. -/
structure PressComesTo (l : Layout W N) (p : Point W) (t : Targets W) (i : Nat) (changes : List (Change W N)) :
    Prop where
  /-- Nothing breaks down, unless time passes while an edge joins a node to itself. -/
  runs : (l.after? (.down p t :: changes)).isSome = true ↔
    ((∃ dt, .tick dt ∈ changes) → l.physics.hasLoop = false)
  /-- The release is a click on the node if the pointer was always near the press, -/
  click : ∃ id, l.ids[i]? = some id ∧ ∀ {m}, l.after? (.down p t :: changes) = some m →
    (m.pointerUp.2 = some id ↔ ∀ q ∈ points changes, (q.minus p).length < clickSlop)
  /-- and no click at all if it was far from it, however it went on. -/
  drag : ∀ {m}, l.after? (.down p t :: changes) = some m → (∃ q ∈ points changes, Far p q) →
    m.pointerUp.2 = none
  /-- A second release is no click either. -/
  again : ∀ {m}, l.after? (.down p t :: changes) = some m → m.pointerUp.1.pointerUp.2 = none
  /-- Up to the first point that is far, no node is moved or pinned by the drag: all but the drag itself is as if
  there were no press and no moves. -/
  still : ∀ {earlier}, earlier <+: changes → (∀ q ∈ points earlier, (q.minus p).length < clickSlop) →
    (l.after? (.down p t :: earlier)).map ({ · with drag := l.drag }) = l.after? (unmoved earlier)
  /-- No move on the way tells of anything that the pointer rests on. -/
  silent : ∀ {earlier later q u m}, changes = earlier ++ .move q u :: later →
    l.after? (.down p t :: earlier) = some m → (m.pointerMove q u).2 = none

/-- A press on a node of any layout, whatever happens until the release. -/
theorem press_comes_to (hit : l.nodeAt? p t.radius = some i) (pressed : ∀ c ∈ changes, c.whilePressed = true) :
    PressComesTo l p t i changes := by
  obtain ⟨a, present⟩ := place_of_nodeAt? hit
  have named : l.ids[i]? = some a.id := by
    rw [ids, Physics.getElem?_ids, present]
    rfl
  refine ⟨press_runs_iff pressed, ⟨a.id, named, ?_⟩, ?_, ?_, ?_, ?_⟩
  · intro m run
    obtain ⟨far, near⟩ := clicked_press hit named pressed run
    constructor
    · intro clicked q passes
      by_contra away
      cases (far ⟨q, passes, away⟩).symm.trans clicked
    · intro always
      refine near ?_
      rintro ⟨q, passes, away⟩
      exact away (always q passes)
  · intro m run
    exact (clicked_press hit named pressed run).1
  · intro m _
    rfl
  · intro earlier course
    exact after?_unmoved hit fun c member => pressed c (course.subset member)
  · rintro earlier later q u m rfl run
    obtain ⟨d, held, _⟩ := drag_press hit (fun c member => pressed c (by simp [member])) run
    unfold pointerMove
    rw [held]

attribute [local instance] Session.instScalarInt Session.instNarrowingInt

/-- One node, at `(500, 300)` on a canvas of the standard size. -/
def alone : Layout Int Int :=
  (create 800 600).load single

/-- The pointer shakes a little, time passes, the wheel is turned and the canvas gets smaller. Then the pointer
goes far off and comes back. -/
def wandering : List (Change Int Int) :=
  [.move ⟨501, 300⟩ (allOf single), .tick 1, .wheel ⟨501, 300⟩ 1, .resize 400 300,
    .move ⟨560, 300⟩ (allOf single), .move ⟨500, 300⟩ (allOf single)]

/-- A release before it goes off would have been a click, and one at the end is none. -/
theorem press_comes_to_wandering : alone.nodeAt? ⟨500, 300⟩ (allOf single).radius = some 0 ∧
    (∀ c ∈ wandering, c.whilePressed = true) ∧
    PressComesTo alone ⟨500, 300⟩ (allOf single) 0 wandering ∧
    (alone.after? (.down ⟨500, 300⟩ (allOf single) :: wandering.take 4)).map (·.pointerUp.2) =
      some (some "a") ∧
    (alone.after? (.down ⟨500, 300⟩ (allOf single) :: wandering)).map (·.pointerUp.2) = some none := by
  have hit : alone.nodeAt? ⟨500, 300⟩ (allOf single).radius = some 0 := by decide +kernel
  have pressed : ∀ c ∈ wandering, c.whilePressed = true := by simp [wandering, Change.whilePressed]
  exact ⟨hit, pressed, press_comes_to hit pressed, by decide +kernel, by decide +kernel⟩

end Layout

end GraphViewer

import Mathlib.Tactic.FieldSimp
import GraphViewer.Proofs.Hits
import GraphViewer.Proofs.Pins
import GraphViewer.Proofs.Remembered
import GraphViewer.Proofs.ZoomLimits
/-
What stays under the pointer while it is pressed. A move of the pointer puts the view, or the node in hand,
where the way since the press takes it with the zoom of the moment. In exact numbers this keeps what was
grabbed under the pointer just if the camera shows it as at the press: the view, if the zoom is the same or the
press was in the middle of the canvas, and a node, if the place where it was is shown at the same point. A wheel
step between press and release takes both out of the pointer's grip, and a camera that is on its way when a node
is pressed on takes the node out of it as well.
-/

namespace GraphViewer

open Scalar (nat zero one clamp)
open Narrowing (narrow widen)

/-- Nothing is on its way. -/
def Camera.AtRest {W : Type} (c : Camera W) : Prop :=
  c.centring = none ∧ c.zooming = none

theorem Point.minus_left_inj {a b p : Point ℝ} : a.minus p = b.minus p ↔ a = b := by
  obtain ⟨ax, ay⟩ := a
  obtain ⟨bx, by'⟩ := b
  simp [Point.minus]

theorem Camera.tick_of_atRest {W : Type} [Scalar W] {c : Camera W} (rest : c.AtRest) (ms : W) :
    c.tick ms = c := by
  simp [tick, tickCentre, tickZoom, rest.1, rest.2]

namespace Layout

variable {W N : Type} [Scalar W] [Scalar N] [Narrowing W N]

/-- What may happen while the pointer is pressed, and takes it from one point to another: it moves, the wheel is
turned where it is, and time passes. -/
inductive Meanwhile (p : Point W) : List (Change W N) → Point W → Prop
  | start : Meanwhile p [] p
  | move {changes : List (Change W N)} {q r : Point W} {t : Targets W} :
      Meanwhile p changes q → Meanwhile p (changes ++ [.move r t]) r
  | wheel {changes : List (Change W N)} {q : Point W} {turn : W} :
      Meanwhile p changes q → Meanwhile p (changes ++ [.wheel q turn]) q
  | tick {changes : List (Change W N)} {q : Point W} {dt : N} :
      Meanwhile p changes q → Meanwhile p (changes ++ [.tick dt]) q

/-- The points that the pointer goes by. -/
def points (changes : List (Change W N)) : List (Point W) :=
  changes.filterMap Change.goesTo?

/-- The wheel is turned. -/
def Change.turns : Change W N → Bool
  | .wheel _ _ => true
  | _ => false

variable {l m next : Layout W N} {changes : List (Change W N)} {p q r : Point W} {t u : Targets W} {i : Nat}

/-- The middle of the canvas. -/
def middle (l : Layout W N) : Point W :=
  ⟨l.width / nat 2, l.height / nat 2⟩

theorem after?_cons_concat_iff {c d : Change W N} :
    l.after? (d :: (changes ++ [c])) = some next ↔
      ∃ m, l.after? (d :: changes) = some m ∧ m.undergo? c = some next := by
  rw [← List.cons_append, after?_concat_iff]

omit [Scalar W] [Scalar N] [Narrowing W N] in
theorem points_concat (changes : List (Change W N)) (c : Change W N) :
    points (changes ++ [c]) = points changes ++ c.goesTo?.toList := by
  cases goes : c.goesTo? <;> simp [points, goes]

/-! ## The view in hand -/

/-- The view is in hand since a press at a point, when the layout was `l`. -/
structure HoldsView (l : Layout W N) (p : Point W) (m : Layout W N) : Prop where
  drag : m.drag = none
  pan : m.pan = some ⟨p.x, p.y, l.camera.x, l.camera.y⟩
  rest : m.camera.AtRest
  width : m.width = l.width
  height : m.height = l.height

theorem holdsView_down (free : l.drag = none) (beside : l.nodeAt? p t.radius = none) :
    HoldsView l p (l.pointerDown p t) := by
  unfold pointerDown
  rw [beside]
  exact ⟨free, rfl, ⟨rfl, rfl⟩, rfl, rfl⟩

theorem HoldsView.pointerMove (holds : HoldsView l p m) (r : Point W) (u : Targets W) :
    (m.pointerMove r u).1 = m.panTo ⟨p.x, p.y, l.camera.x, l.camera.y⟩ r := by
  unfold Layout.pointerMove
  rw [holds.drag, holds.pan]

theorem tick_of_atRest {dt : N} (ticked : m.tick? dt = some next) (rest : m.camera.AtRest) :
    next.camera = m.camera :=
  (camera_tick ticked).trans (Camera.tick_of_atRest rest _)

theorem HoldsView.tick {dt : N} (holds : HoldsView l p m) (ticked : m.tick? dt = some next) :
    HoldsView l p next := by
  have still := tick_of_atRest ticked holds.rest
  obtain ⟨_, _, _, _, rfl⟩ := exists_of_tick ticked
  refine ⟨holds.drag, holds.pan, ?_, holds.width, holds.height⟩
  rw [still]
  exact holds.rest

/-- The view stays in hand while the pointer is pressed, and only the wheel changes the zoom. -/
theorem holdsView_after (free : l.drag = none) (beside : l.nodeAt? p t.radius = none)
    (meanwhile : Meanwhile p changes q) (run : l.after? (.down p t :: changes) = some m) :
    HoldsView l p m ∧ ((∀ c ∈ changes, c.turns = false) → m.camera.zoom = l.camera.zoom) := by
  induction meanwhile generalizing m with
  | start =>
    cases run
    refine ⟨holdsView_down free beside, fun _ => ?_⟩
    unfold pointerDown
    rw [beside]
    rfl
  | @move changes q r u _ ih =>
    obtain ⟨before, reached, step⟩ := after?_cons_concat_iff.1 run
    obtain ⟨holds, zoom⟩ := ih reached
    cases step
    rw [holds.pointerMove]
    refine ⟨⟨holds.drag, holds.pan, holds.rest, holds.width, holds.height⟩, fun unturned => ?_⟩
    exact zoom fun c member => unturned c (List.mem_append_left _ member)
  | wheel _ ih =>
    obtain ⟨before, reached, step⟩ := after?_cons_concat_iff.1 run
    obtain ⟨holds, _⟩ := ih reached
    cases step
    refine ⟨⟨holds.drag, holds.pan, ⟨rfl, rfl⟩, holds.width, holds.height⟩, fun unturned => ?_⟩
    cases unturned _ (List.mem_append_right _ List.mem_cons_self)
  | tick _ ih =>
    obtain ⟨before, reached, step⟩ := after?_cons_concat_iff.1 run
    obtain ⟨holds, zoom⟩ := ih reached
    refine ⟨holds.tick step, fun unturned => ?_⟩
    rw [tick_of_atRest step holds.rest]
    exact zoom fun c member => unturned c (List.mem_append_left _ member)

/-! ## A node in hand -/

/-- The node at a place is in hand since a press at a point, when the layout was `l` and the node was `a`. The
pointer has gone by the points of `way` since. -/
structure HoldsNode (l : Layout W N) (p : Point W) (i : Nat) (a : Particle N) (way : List (Point W))
    (m : Layout W N) (d : Drag W N) : Prop where
  drag : m.drag = some d
  records : d.Records i p way
  nodeX : d.nodeX = a.x
  nodeY : d.nodeY = a.y
  ids : m.ids = l.ids
  width : m.width = l.width
  height : m.height = l.height

variable {a : Particle N} {d : Drag W N} {way : List (Point W)}

theorem holdsNode_down (hit : l.nodeAt? p t.radius = some i) (present : l.physics.particles[i]? = some a) :
    ∃ d, HoldsNode l p i a [] (l.pointerDown p t) d := by
  unfold pointerDown
  rw [hit]
  dsimp only
  rw [present]
  exact ⟨_, rfl, ⟨rfl, rfl, by simp⟩, rfl, rfl, rfl, rfl, rfl⟩

theorem size_pointerMove (l : Layout W N) (q : Point W) (u : Targets W) :
    (l.pointerMove q u).1.width = l.width ∧ (l.pointerMove q u).1.height = l.height := by
  unfold pointerMove
  split
  · dsimp only [dragTo]
    split <;> exact ⟨rfl, rfl⟩
  · exact ⟨rfl, rfl⟩
  · dsimp only
    split <;> exact ⟨rfl, rfl⟩

theorem HoldsNode.camera_move (holds : HoldsNode l p i a way m d) (r : Point W) (u : Targets W) :
    (m.pointerMove r u).1.camera = m.camera := by
  rw [pointerMove_of_drag holds.drag, dragTo]
  dsimp only
  split <;> rfl

theorem HoldsNode.move (holds : HoldsNode l p i a way m d) (r : Point W) (u : Targets W) :
    ∃ d, HoldsNode l p i a (way ++ [r]) (m.pointerMove r u).1 d := by
  obtain ⟨d', held, records⟩ := drag_pointerMove (q := r) (t := u) holds.drag holds.records
  have same : d'.nodeX = d.nodeX ∧ d'.nodeY = d.nodeY := by
    rw [pointerMove_of_drag holds.drag] at held
    by_cases takes : d.Takes r
    · obtain ⟨x, y, drags⟩ := dragTo_of_takes (l := m) takes
      rw [drags] at held
      cases held
      exact ⟨rfl, rfl⟩
    · rw [dragTo_of_not_takes takes, holds.drag] at held
      cases held
      exact ⟨rfl, rfl⟩
  obtain ⟨width, height⟩ := m.size_pointerMove r u
  refine ⟨d', held, records, same.1.trans holds.nodeX, same.2.trans holds.nodeY, ?_, ?_, ?_⟩
  · exact (ids_pointerMove m r u).trans holds.ids
  · exact width.trans holds.width
  · exact height.trans holds.height

/-- The node stays in hand while the pointer is pressed, and a camera at rest is moved by the wheel only. -/
theorem holdsNode_after (hit : l.nodeAt? p t.radius = some i) (present : l.physics.particles[i]? = some a)
    (meanwhile : Meanwhile p changes q) (run : l.after? (.down p t :: changes) = some m) :
    (∃ d, HoldsNode l p i a (points changes) m d) ∧
      (l.camera.AtRest → (∀ c ∈ changes, c.turns = false) → m.camera = l.camera) := by
  induction meanwhile generalizing m with
  | start =>
    cases run
    refine ⟨holdsNode_down hit present, fun _ _ => ?_⟩
    unfold pointerDown
    rw [hit]
  | @move changes q r u _ ih =>
    obtain ⟨before, reached, step⟩ := after?_cons_concat_iff.1 run
    obtain ⟨⟨d, holds⟩, still⟩ := ih reached
    cases step
    refine ⟨?_, fun rest unturned => ?_⟩
    · rw [points_concat]
      exact holds.move r u
    · rw [holds.camera_move]
      exact still rest fun c member => unturned c (List.mem_append_left _ member)
  | wheel _ ih =>
    obtain ⟨before, reached, step⟩ := after?_cons_concat_iff.1 run
    obtain ⟨⟨d, holds⟩, _⟩ := ih reached
    cases step
    refine ⟨⟨d, ?_⟩, fun _ unturned => ?_⟩
    · simp only [points_concat, Change.goesTo?, Option.toList_none, List.append_nil]
      exact ⟨holds.drag, holds.records, holds.nodeX, holds.nodeY, holds.ids, holds.width, holds.height⟩
    · cases unturned _ (List.mem_append_right _ List.mem_cons_self)
  | tick _ ih =>
    obtain ⟨before, reached, step⟩ := after?_cons_concat_iff.1 run
    obtain ⟨⟨d, holds⟩, still⟩ := ih reached
    refine ⟨⟨d, ?_⟩, fun rest unturned => ?_⟩
    · have ids := (sameNodes_tick step).1.trans holds.ids
      obtain ⟨_, _, _, _, rfl⟩ := exists_of_tick step
      simp only [points_concat, Change.goesTo?, Option.toList_none, List.append_nil]
      exact ⟨holds.drag, holds.records, holds.nodeX, holds.nodeY, ids, holds.width, holds.height⟩
    · have same := still rest fun c member => unturned c (List.mem_append_left _ member)
      rw [← same] at rest
      rw [tick_of_atRest step rest, same]

/-! ## Exact numbers -/

section

variable {l m next : Layout ℝ ℝ} {changes : List (Change ℝ ℝ)} {p q r : Point ℝ} {t u : Targets ℝ} {i : Nat}
  {a : Particle ℝ} {d : Drag ℝ ℝ} {way : List (Point ℝ)}

/-- A point of the graph under a point of the canvas, from the centre of the view. -/
theorem toGraph_eq {N : Type} {l : Layout ℝ N} (zoomed : l.camera.zoom ≠ 0) (q : Point ℝ) : l.toGraph q =
    ⟨l.camera.x + (q.x - l.middle.x) / l.camera.zoom, l.camera.y + (q.y - l.middle.y) / l.camera.zoom⟩ := by
  simp only [toGraph, transform, middle, Point.mk.injEq]
  constructor
  · field_simp
    ring
  · field_simp
    ring

/-- While the view is in hand, a move puts under the pointer what the press point is as far off the centre as at
the press, in the zoom of the moment. -/
theorem HoldsView.toGraph_move (holds : HoldsView l p m) (zoomed : m.camera.zoom ≠ 0) (r : Point ℝ)
    (u : Targets ℝ) : (m.pointerMove r u).1.toGraph r =
      ⟨l.camera.x + (p.x - l.middle.x) / m.camera.zoom, l.camera.y + (p.y - l.middle.y) / m.camera.zoom⟩ := by
  have moved : (m.panTo ⟨p.x, p.y, l.camera.x, l.camera.y⟩ r).camera.zoom ≠ 0 := zoomed
  rw [holds.pointerMove, toGraph_eq moved]
  simp only [panTo, middle, holds.width, holds.height, Point.mk.injEq]
  constructor
  · field_simp
    ring
  · field_simp
    ring

/-- So the view stays under the pointer just if the zoom does, unless the press was in the middle. -/
theorem HoldsView.stays_iff (holds : HoldsView l p m) (zoomed : l.camera.zoom ≠ 0)
    (still : m.camera.zoom ≠ 0) (r : Point ℝ) (u : Targets ℝ) :
    (m.pointerMove r u).1.toGraph r = l.toGraph p ↔ m.camera.zoom = l.camera.zoom ∨ p = l.middle := by
  have same (x : ℝ) : x / m.camera.zoom = x / l.camera.zoom ↔ m.camera.zoom = l.camera.zoom ∨ x = 0 := by
    simp [div_eq_mul_inv]
  obtain ⟨px, py⟩ := p
  rw [holds.toGraph_move still, toGraph_eq zoomed]
  simp only [middle, Point.mk.injEq, add_right_inj, same, ← or_and_left, sub_eq_zero]

/-- A node that goes along goes as far as the pointer, in the zoom of the moment. -/
theorem HoldsNode.position_move (holds : HoldsNode l p i a way m d) (present : l.physics.particles[i]? = some a)
    (far : ∃ q ∈ way ++ [r], Far p q) (u : Targets ℝ) : (m.pointerMove r u).1.position? i =
      some ⟨a.x + (r.x - p.x) / m.camera.zoom, a.y + (r.y - p.y) / m.camera.zoom⟩ := by
  have takes : ¬ (!d.moved && (r.minus ⟨d.startX, d.startY⟩).length < clickSlop) = true := by
    intro near
    rw [Bool.and_eq_true, Bool.not_eq_true', decide_eq_true_eq] at near
    rcases holds.records.takes_iff.2 far with already | gone
    · cases near.1.symm.trans already
    · exact gone near.2
  have there : m.ids[i]? = some a.id := by
    rw [holds.ids, Layout.ids, Physics.getElem?_ids, present]
    rfl
  obtain ⟨b, here, _⟩ := Option.map_eq_some_iff.1 ((m.physics.getElem?_ids i).symm.trans there)
  have origin := holds.records.origin
  rw [Point.mk.injEq] at origin
  rw [pointerMove_of_drag holds.drag, dragTo, if_neg takes]
  simp only [position?, Array.getElem?_modify, holds.records.node, here, if_true, Option.map_some, centreOf,
    Point.minus, holds.nodeX, holds.nodeY, origin]
  rfl

/-- So the node is as far off the pointer as its first place is off the press, as the camera shows that now. -/
theorem HoldsNode.offset_move (holds : HoldsNode l p i a way m d) (present : l.physics.particles[i]? = some a)
    (far : ∃ q ∈ way ++ [r], Far p q) (zoomed : m.camera.zoom ≠ 0) (u : Targets ℝ) :
    ∃ b, (m.pointerMove r u).1.position? i = some b ∧
      ((m.pointerMove r u).1.toCanvas b).minus r = ((m.pointerMove r u).1.toCanvas (centreOf a)).minus p := by
  refine ⟨_, holds.position_move present far u, ?_⟩
  simp only [toCanvas, transform, holds.camera_move, Point.minus, centreOf, widen, Point.mk.injEq]
  constructor
  · field_simp
    ring
  · field_simp
    ring

/-- From a press at a point, over some changes, to a move of the pointer to another point: what was grabbed is where
it was under the pointer. -/
structure Stays (l : Layout ℝ ℝ) (p : Point ℝ) (t : Targets ℝ) (changes : List (Change ℝ ℝ)) (r : Point ℝ)
    (next : Layout ℝ ℝ) : Prop where
  /-- Beside all nodes, with none in hand, it is the point of the graph under the pointer, -/
  view : l.drag = none → l.nodeAt? p t.radius = none → next.toGraph r = l.toGraph p
  /-- and else the node, once the pointer has been far from the press. -/
  node : ∀ i, l.nodeAt? p t.radius = some i → (∃ q ∈ points changes ++ [r], Far p q) →
    ∃ a b, l.position? i = some a ∧ next.position? i = some b ∧
      (next.toCanvas b).minus r = (l.toCanvas a).minus p

/-- The camera shows what was grabbed as it did at the press. -/
structure ShownAlike (l : Layout ℝ ℝ) (p : Point ℝ) (t : Targets ℝ) (changes : List (Change ℝ ℝ)) (r : Point ℝ)
    (next : Layout ℝ ℝ) : Prop where
  /-- The zoom is the same, or the press was in the middle; -/
  view : l.drag = none → l.nodeAt? p t.radius = none → next.camera.zoom = l.camera.zoom ∨ p = l.middle
  /-- the place where the node was is shown at the same point. -/
  node : ∀ i a, l.nodeAt? p t.radius = some i → (∃ q ∈ points changes ++ [r], Far p q) →
    l.position? i = some a → next.toCanvas a = l.toCanvas a

theorem stays_iff_shownAlike (within : l.camera.Within) (meanwhile : Meanwhile p changes q)
    (forward : ∀ c ∈ changes, c.Forward)
    (run : l.after? (.down p t :: (changes ++ [.move r u])) = some next) :
    Stays l p t changes r next ↔ ShownAlike l p t changes r next := by
  obtain ⟨m, reached, step⟩ := after?_cons_concat_iff.1 run
  have zoomed : l.camera.zoom ≠ 0 := ne_zero_of_mem_zoomRange within.zoom
  have still : m.camera.zoom ≠ 0 := by
    refine ne_zero_of_mem_zoomRange (within_after within (fun c member => ?_) reached).zoom
    rcases List.mem_cons.1 member with rfl | later
    · trivial
    · exact forward c later
  cases step
  have node {i : Nat} {a : Particle ℝ} (hit : l.nodeAt? p t.radius = some i)
      (present : l.physics.particles[i]? = some a) (far : ∃ q ∈ points changes ++ [r], Far p q) :
      (∃ a b, l.position? i = some a ∧ (m.pointerMove r u).1.position? i = some b ∧
        ((m.pointerMove r u).1.toCanvas b).minus r = (l.toCanvas a).minus p) ↔
      (m.pointerMove r u).1.toCanvas (centreOf a) = l.toCanvas (centreOf a) := by
    obtain ⟨⟨d, holds⟩, _⟩ := holdsNode_after hit present meanwhile reached
    obtain ⟨b, there, offset⟩ := holds.offset_move present far still u
    have here : l.position? i = some (centreOf a) := by
      rw [position?, present]
      rfl
    rw [here, there]
    constructor
    · rintro ⟨_, _, ⟨⟩, ⟨⟩, same⟩
      exact Point.minus_left_inj.1 (offset.symm.trans same)
    · intro alike
      exact ⟨_, _, rfl, rfl, by rw [offset, alike]⟩
  constructor
  · intro stays
    refine ⟨fun free beside => ?_, fun i a hit far there => ?_⟩
    · obtain ⟨holds, _⟩ := holdsView_after free beside meanwhile reached
      rw [holds.pointerMove]
      exact (holds.stays_iff zoomed still r u).1 (stays.view free beside)
    · obtain ⟨b, present, rfl⟩ := Option.map_eq_some_iff.1 there
      exact (node hit present far).1 (stays.node i hit far)
  · intro alike
    refine ⟨fun free beside => ?_, fun i hit far => ?_⟩
    · obtain ⟨holds, _⟩ := holdsView_after free beside meanwhile reached
      refine (holds.stays_iff zoomed still r u).2 ?_
      have same := alike.view free beside
      rwa [holds.pointerMove] at same
    · obtain ⟨a, present⟩ := place_of_nodeAt? hit
      exact (node hit present far).2 (alike.node i _ hit far (by rw [position?, present]; rfl))

/-- What keeps what was grabbed under the pointer, from a press over some changes to a move. -/
structure Grips (l : Layout ℝ ℝ) (p : Point ℝ) (t : Targets ℝ) (changes : List (Change ℝ ℝ)) (r : Point ℝ)
    (next : Layout ℝ ℝ) : Prop where
  /-- It stays there just if the camera shows it as it did at the press; -/
  stays_iff : Stays l p t changes r next ↔ ShownAlike l p t changes r next
  /-- so whenever the wheel is not turned, beside all nodes or with a camera that was at rest at the press. -/
  unturned : (∀ c ∈ changes, c.turns = false) → l.nodeAt? p t.radius = none ∨ l.camera.AtRest →
    Stays l p t changes r next

theorem shownAlike_of_unturned (meanwhile : Meanwhile p changes q)
    (run : l.after? (.down p t :: (changes ++ [.move r u])) = some next)
    (unturned : ∀ c ∈ changes, c.turns = false) (steady : l.nodeAt? p t.radius = none ∨ l.camera.AtRest) :
    ShownAlike l p t changes r next := by
  obtain ⟨m, reached, step⟩ := after?_cons_concat_iff.1 run
  cases step
  refine ⟨fun free beside => .inl ?_, fun i b hit far there => ?_⟩
  · obtain ⟨holds, zoom⟩ := holdsView_after free beside meanwhile reached
    rw [holds.pointerMove]
    exact zoom unturned
  · obtain ⟨a, present, rfl⟩ := Option.map_eq_some_iff.1 there
    obtain ⟨⟨d, holds⟩, camera⟩ := holdsNode_after hit present meanwhile reached
    have rest := steady.resolve_left (by simp [hit])
    have moved := m.size_pointerMove r u
    simp only [toCanvas, transform, holds.camera_move, camera rest unturned, moved, holds.width, holds.height]

/-- A press on a new layout, whatever has happened to it, and whatever happens until the pointer moves. -/
theorem grabbed_stays (width height : ℝ) {before : List (Change ℝ ℝ)}
    (reached : (create width height).after? before = some l) (meanwhile : Meanwhile p changes q)
    (forward : ∀ c ∈ before ++ changes, c.Forward)
    (run : l.after? (.down p t :: (changes ++ [.move r u])) = some next) : Grips l p t changes r next := by
  have within : l.camera.Within := by
    refine within_after Camera.within_initial (fun c member => ?_) reached
    exact forward c (List.mem_append_left _ member)
  have stays := stays_iff_shownAlike within meanwhile (fun c member => forward c (by simp [member])) run
  refine ⟨stays, fun unturned steady => stays.2 ?_⟩
  exact shownAlike_of_unturned meanwhile run unturned steady

/-- One node, at `(500, 300)` on the canvas. -/
noncomputable def loaded : Layout ℝ ℝ :=
  (create (nat 800) (nat 600)).load single

/-- Every node can be hit within 7. -/
noncomputable def within7 : Targets ℝ :=
  ⟨fun _ => some (nat 7), fun _ => true⟩

theorem particles_loaded : loaded.physics.particles = #[Particle.atRest "a" 100 0 false] := by
  simp [loaded, load, single, settle, particleIn?, particles, create, Physics.empty, seed, seedRadius, Scalar.cos,
    Scalar.sin]
  rfl

/-- With its nodes and its view the node is hit at its place on the canvas. -/
theorem nodeAt_loaded {l : Layout ℝ ℝ} (physics : l.physics = loaded.physics)
    (view : l.transform = loaded.transform) : l.nodeAt? ⟨500, 300⟩ within7.radius = some 0 := by
  have under : l.toGraph ⟨500, 300⟩ = ⟨100, 0⟩ := by
    rw [toGraph, view]
    simp [transform, loaded, load, create, Camera.initial]
    norm_num
  have inside :
      ((centreOf (Particle.atRest "a" 100 0 false : Particle ℝ)).minus (⟨100, 0⟩ : Point ℝ)).length < 7 := by
    simp [Point.minus, Point.length, centreOf, Particle.atRest, Scalar.sqrt]
    norm_num [widen]
  have listed : l.particles = [Particle.atRest "a" 100 0 false] := by
    rw [Layout.particles, physics, particles_loaded]
  rw [nodeAt?, listed, under]
  exact if_pos inside

theorem far_510 : Far (⟨500, 300⟩ : Point ℝ) ⟨510, 300⟩ := by
  have length : ((⟨510, 300⟩ : Point ℝ).minus ⟨500, 300⟩).length = 10 := by
    show √((510 - 500) * (510 - 500) + (300 - 300) * (300 - 300)) = (10 : ℝ)
    rw [Real.sqrt_eq_iff_mul_self_eq (by norm_num) (by norm_num)]
    norm_num
  rw [Far, length, clickSlop, Scalar.nat_real]
  norm_num

/-- The pointer moves, but not far. -/
noncomputable def nudged : List (Change ℝ ℝ) :=
  [.move ⟨nat 501, nat 300⟩ within7]

/-- The node in hand goes along with the pointer. -/
theorem grabbed_stays_dragged : (create 800 600).after? [.load single] = some loaded ∧
    (∀ c ∈ [.load single] ++ nudged, c.Forward) ∧ Meanwhile ⟨500, 300⟩ nudged ⟨501, 300⟩ ∧
    ∃ next, loaded.after? (.down ⟨500, 300⟩ within7 :: (nudged ++ [.move ⟨510, 300⟩ within7])) = some next ∧
      Grips loaded ⟨500, 300⟩ within7 nudged ⟨510, 300⟩ next ∧
      ∃ a b, loaded.position? 0 = some a ∧ next.position? 0 = some b ∧
        (next.toCanvas b).minus ⟨510, 300⟩ = (loaded.toCanvas a).minus ⟨500, 300⟩ := by
  have reached : (create 800 600).after? [.load single] = some loaded := rfl
  have forward : ∀ c ∈ [.load single] ++ nudged, c.Forward := by
    simp [nudged, Change.Forward]
  have meanwhile : Meanwhile ⟨500, 300⟩ nudged ⟨501, 300⟩ := Meanwhile.start.move
  have grips := fun next => @grabbed_stays loaded next nudged ⟨500, 300⟩ _ ⟨510, 300⟩ within7 within7 800 600 _
    reached meanwhile forward
  refine ⟨reached, forward, meanwhile, _, rfl, grips _ rfl, ?_⟩
  have stays := (grips _ rfl).unturned (by simp [nudged, Change.turns]) (.inr ⟨rfl, rfl⟩)
  exact stays.node 0 (nodeAt_loaded rfl rfl) ⟨_, by simp, far_510⟩

/-- The wheel is turned. -/
noncomputable def turned : List (Change ℝ ℝ) :=
  [.wheel ⟨nat 100, nat 100⟩ (-1)]

/-- Some time passes. -/
noncomputable def waited : List (Change ℝ ℝ) :=
  [.tick (nat 3 / nat 10)]

/-- The camera is on its way to the double zoom. -/
noncomputable def nearer : Layout ℝ ℝ :=
  loaded.obey ⟨.origin, nat 2, 0, nat 600⟩

/-- On a canvas of the standard size, some changes lead to a layout on which a press at a point, some more changes
and a move to another point leave something grabbed that is not where it was under the pointer. -/
def Slips (before : List (Change ℝ ℝ)) (p : Point ℝ) (t : Targets ℝ) (changes : List (Change ℝ ℝ))
    (r : Point ℝ) : Prop :=
  ∃ l q next, (create (nat 800) (nat 600)).after? before = some l ∧ (∀ c ∈ before ++ changes, c.Forward) ∧
    Meanwhile p changes q ∧ l.after? (.down p t :: (changes ++ [.move r t])) = some next ∧
    ¬ Stays l p t changes r next

/-- The view is pressed on, the wheel is turned there, and the next move takes the view out from under the pointer. -/
theorem view_slips : Slips [] ⟨100, 100⟩ within7 turned ⟨100, 100⟩ := by
  have forward : ∀ c ∈ turned, c.Forward := by
    simp [turned, Change.Forward]
  have meanwhile : Meanwhile ⟨100, 100⟩ turned ⟨100, 100⟩ := Meanwhile.start.wheel
  refine ⟨_, _, _, rfl, forward, meanwhile, rfl, fun stays => ?_⟩
  have alike := (stays_iff_shownAlike Camera.within_initial meanwhile forward rfl).1 stays
  rcases alike.view rfl rfl with zoom | middle
  · change clamp zoomLeast zoomMost ((one : ℝ) * if zero < (-1 : ℝ) then nat 9 / nat 10 else nat 11 / nat 10) =
      one at zoom
    norm_num [clamp, zoomLeast_real, zoomMost_real] at zoom
  · norm_num [create, Layout.middle] at middle

theorem camera_nearer : nearer.camera = ⟨0, 0, 1, none, some ⟨1, 2, 0, 600⟩⟩ := by
  have clamped : clamp zoomLeast zoomMost (2 : ℝ) = 2 := by
    norm_num [clamp, zoomLeast_real, zoomMost_real]
  simp [nearer, obey, loaded, load, create, Camera.centreAt, Camera.zoomTo, Camera.start, Camera.tick,
    Camera.tickCentre, Camera.tickZoom, Camera.initial, Tween.after, Tween.value, Tween.isDone, clamped]

/-- Half of the time has passed, and the zoom has gone seven eighths of its way from 1 to 2. -/
theorem camera_nearer_tick : nearer.camera.tick 300 = ⟨0, 0, 15 / 8, none, some ⟨1, 2, 300, 600⟩⟩ := by
  rw [camera_nearer]
  simp [Camera.tick, Camera.tickCentre, Camera.tickZoom, Tween.after, Tween.value, Tween.isDone, easeOut]
  norm_num

theorem transform_nearer : nearer.transform = loaded.transform := by
  simp only [transform, camera_nearer]
  simp [nearer, obey, loaded, load, create, Camera.initial]

theorem nodeAt_nearer : nearer.nodeAt? ⟨500, 300⟩ within7.radius = some 0 :=
  nodeAt_loaded rfl transform_nearer

/-- A node is pressed on while the camera is on its way, and the next move takes it along beside the pointer. -/
theorem node_slips : Slips [.load single, .obey ⟨.origin, 2, 0, 600⟩] ⟨500, 300⟩ within7 waited ⟨510, 300⟩ := by
  have forward : ∀ c ∈ waited, c.Forward := by
    norm_num [waited, Change.Forward, widen]
  have meanwhile : Meanwhile ⟨500, 300⟩ waited ⟨500, 300⟩ := Meanwhile.start.tick
  have pressed : (nearer.pointerDown ⟨500, 300⟩ within7).camera = nearer.camera := by
    unfold pointerDown
    rw [nodeAt_nearer]
  obtain ⟨m, ticked⟩ : ∃ m, (nearer.pointerDown ⟨500, 300⟩ within7).undergo? (.tick (3 / 10)) = some m := by
    rw [undergo?, tick?, physics_pointerDown]
    exact ⟨_, rfl⟩
  have going : nearer.after? (.down ⟨500, 300⟩ within7 :: ([] ++ [.tick (3 / 10)])) = some m :=
    after?_cons_concat_iff.2 ⟨_, rfl, ticked⟩
  have run : nearer.after? (.down ⟨500, 300⟩ within7 :: (waited ++ [.move ⟨510, 300⟩ within7])) =
      some (m.pointerMove ⟨510, 300⟩ within7).1 := after?_cons_concat_iff.2 ⟨_, going, rfl⟩
  refine ⟨nearer, _, _, rfl, ?_, meanwhile, run, fun stays => ?_⟩
  · simpa [Change.Forward] using forward
  have within : nearer.camera.Within := within_obey Camera.within_initial _
  have alike := (stays_iff_shownAlike within meanwhile forward run).1 stays
  have present : nearer.physics.particles[0]? = some (Particle.atRest "a" 100 0 false) := by
    show loaded.physics.particles[0]? = _
    simp [particles_loaded]
  have place : nearer.position? 0 = some ⟨100, 0⟩ := by
    rw [position?, present]
    rfl
  obtain ⟨⟨d, holds⟩, _⟩ := holdsNode_after nodeAt_nearer present meanwhile going
  have camera : (m.pointerMove ⟨510, 300⟩ within7).1.camera = nearer.camera.tick 300 := by
    rw [holds.camera_move, camera_tick ticked, pressed]
    norm_num [widen]
  have width : (m.pointerMove ⟨510, 300⟩ within7).1.width = 800 :=
    (m.size_pointerMove ⟨510, 300⟩ within7).1.trans holds.width
  -- the node was at 500 on the canvas, and its place is shown at 587.5 by now
  have shifted := congrArg Point.x (alike.node 0 ⟨100, 0⟩ nodeAt_nearer ⟨_, by simp, far_510⟩ place)
  simp only [toCanvas, transform_nearer] at shifted
  norm_num [transform, camera, camera_nearer_tick, width, loaded, load, create, Camera.initial] at shifted

/-- The pointer loses its grip on the view, and on a node. -/
theorem grip_slips : Slips [] ⟨100, 100⟩ within7 turned ⟨100, 100⟩ ∧
    Slips [.load single, .obey ⟨.origin, 2, 0, 600⟩] ⟨500, 300⟩ within7 waited ⟨510, 300⟩ :=
  ⟨view_slips, node_slips⟩

end

end Layout

end GraphViewer

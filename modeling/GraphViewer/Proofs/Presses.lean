import Mathlib.Data.List.Induction
import Mathlib.Logic.Basic
import GraphViewer.Proofs.Hovering
/-
What the pointer has in hand. Whatever happens to a layout, a node is dragged just while the last press on a node
is on, which a new snapshot ends as well as a release, and the view is moved just while the last press beside all
nodes is on, which only a release ends. Nothing keeps the two apart: a press does not wait for the one before to
be over, and so both are on after a press on a node and one beside all nodes without a release in between. With
a release before each new press there is never more than one of them.
-/

namespace GraphViewer

/-- A point is so far from the one of a press that the pointer has not stayed where it was. -/
def Far {W : Type} [Scalar W] (p q : Point W) : Prop :=
  ¬ (q.minus p).length < Layout.clickSlop

/-- A drag as it should be after a press on the node at a place and a way of the pointer. -/
structure Drag.Records {W N : Type} [Scalar W] (d : Drag W N) (i : Nat) (p : Point W) (way : List (Point W)) :
    Prop where
  node : d.node = i
  origin : (⟨d.startX, d.startY⟩ : Point W) = p
  moved : d.moved = true ↔ ∃ q ∈ way, Far p q

/-- With the pointer at a point the node goes along: it is far from the press now, or was before. -/
def Drag.Takes {W N : Type} [Scalar W] (d : Drag W N) (q : Point W) : Prop :=
  d.moved = true ∨ Far ⟨d.startX, d.startY⟩ q

theorem Drag.Records.takes_iff {W N : Type} [Scalar W] {d : Drag W N} {i : Nat} {p q : Point W}
    {way : List (Point W)} (records : d.Records i p way) : d.Takes q ↔ ∃ r ∈ way ++ [q], Far p r := by
  rw [Drag.Takes, records.moved, records.origin]
  simp [or_and_right, exists_or]

namespace Layout

/-- What can happen to a layout. -/
inductive Change (W N : Type) where
  | load (snapshot : Snapshot)
  | tick (dt : N)
  | down (p : Point W) (t : Targets W)
  | move (p : Point W) (t : Targets W)
  | up
  | leave
  | wheel (p : Point W) (turn : W)
  | obey (order : CameraOrder W)
  | resize (width height : W)

variable {W N : Type} [Scalar W] [Scalar N] [Narrowing W N]

/-- What becomes of the layout. Time cannot pass while an edge joins a node to itself. -/
def undergo? (l : Layout W N) : Change W N → Option (Layout W N)
  | .load s => some (l.load s)
  | .tick dt => l.tick? dt
  | .down p t => some (l.pointerDown p t)
  | .move p t => some (l.pointerMove p t).1
  | .up => some l.pointerUp.1
  | .leave => some l.pointerLeave.1
  | .wheel p turn => some (l.wheel p turn)
  | .obey order => some (l.obey order)
  | .resize width height => some (l.resize width height)

/-- What has become of it after some changes. -/
def after? (start : Layout W N) (changes : List (Change W N)) : Option (Layout W N) :=
  changes.foldlM undergo? start

/-- The pointer is lifted, or gone from the canvas. -/
def Change.lifts : Change W N → Bool
  | .up | .leave => true
  | _ => false

def Change.goesTo? : Change W N → Option (Point W)
  | .move p _ => some p
  | _ => none

/-- The node in hand, if there is one, is let go of. -/
def letsGo (l : Layout W N) : Change W N → Bool
  | .up | .leave | .load _ => true
  | .down p t => (l.nodeAt? p t.radius).isSome
  | _ => false

/-- In the course of some changes the node at a place was pressed on at a point, and it is in hand still; the
pointer has gone by the points of `way` since. -/
inductive InHand (start : Layout W N) : List (Change W N) → Nat → Point W → List (Point W) → Prop
  | down {changes : List (Change W N)} {l : Layout W N} {p : Point W} {t : Targets W} {i : Nat} :
      start.after? changes = some l → l.nodeAt? p t.radius = some i →
      InHand start (changes ++ [.down p t]) i p []
  | still {changes : List (Change W N)} {l : Layout W N} {p : Point W} {i : Nat} {way : List (Point W)}
      {c : Change W N} : InHand start changes i p way → start.after? changes = some l → l.letsGo c = false →
      InHand start (changes ++ [c]) i p (way ++ c.goesTo?.toList)

/-- In the course of some changes a press went beside all nodes, and the pointer was not lifted since. -/
inductive Panning (start : Layout W N) : List (Change W N) → Prop
  | down {changes : List (Change W N)} {l : Layout W N} {p : Point W} {t : Targets W} :
      start.after? changes = some l → l.nodeAt? p t.radius = none → Panning start (changes ++ [.down p t])
  | still {changes : List (Change W N)} {c : Change W N} :
      Panning start changes → c.lifts = false → Panning start (changes ++ [c])

variable {start l next : Layout W N} {changes : List (Change W N)} {c : Change W N} {d : Drag W N}
  {p q : Point W} {i : Nat} {way : List (Point W)}

theorem after?_concat : start.after? (changes ++ [c]) = (start.after? changes).bind (·.undergo? c) := by
  simp [after?, List.foldlM_append]

/-- The last of some changes happened to what the others led to. -/
theorem after?_concat_iff : start.after? (changes ++ [c]) = some next ↔
    ∃ l, start.after? changes = some l ∧ l.undergo? c = some next := by
  rw [after?_concat, Option.bind_eq_some_iff]

/-- What holds at the start and is kept by each of some changes holds after them. -/
theorem after?_keeps {P : Layout W N → Prop} (begun : P start)
    (kept : ∀ {l next c}, c ∈ changes → P l → l.undergo? c = some next → P next)
    (run : start.after? changes = some l) : P l := by
  induction changes using List.reverseRecOn generalizing l with
  | nil =>
    cases run
    exact begun
  | append_singleton changes c ih =>
    obtain ⟨before, reached, step⟩ := after?_concat_iff.1 run
    have earlier := ih (fun member => kept (List.mem_append_left _ member)) reached
    exact kept (by simp) earlier step

/-! ## Drags -/

theorem drag_pointerDown {t : Targets W} (hit : l.nodeAt? p t.radius = some i) :
    ∃ d, (l.pointerDown p t).drag = some d ∧ d.Records i p [] := by
  unfold pointerDown
  rw [hit]
  exact ⟨_, rfl, rfl, rfl, by simp⟩

/-- A press beside all nodes leaves a drag as it is. -/
theorem drag_pointerDown_beside {t : Targets W} (beside : l.nodeAt? p t.radius = none) :
    (l.pointerDown p t).drag = l.drag := by
  unfold pointerDown
  rw [beside]

theorem dragTo_of_not_takes (near : ¬ d.Takes q) : l.dragTo d q = l := by
  rw [Drag.Takes, not_or, Bool.not_eq_true, Far, not_not] at near
  exact if_pos (by simpa using near)

/-- A node that goes along is put somewhere and pinned there. -/
theorem dragTo_of_takes (far : d.Takes q) : ∃ x y, l.dragTo d q =
    { l with
      drag := some { d with moved := true }
      physics := { l.physics with
        particles := l.physics.particles.modify d.node ({ · with x := x, y := y, pinned := true }) } } := by
  refine ⟨_, _, if_neg fun near => ?_⟩
  rw [Bool.and_eq_true, Bool.not_eq_true', decide_eq_true_eq] at near
  rcases far with already | far
  · cases near.1.symm.trans already
  · exact far near.2

theorem pointerMove_of_drag {t : Targets W} (held : l.drag = some d) :
    (l.pointerMove q t).1 = l.dragTo d q := by
  unfold pointerMove
  rw [held]

theorem drag_pointerMove {t : Targets W} (held : l.drag = some d) (records : d.Records i p way) :
    ∃ d', (l.pointerMove q t).1.drag = some d' ∧ d'.Records i p (way ++ [q]) := by
  rw [pointerMove_of_drag held]
  by_cases takes : d.Takes q
  · obtain ⟨x, y, drags⟩ := dragTo_of_takes (l := l) takes
    rw [drags]
    exact ⟨_, rfl, records.node, records.origin, iff_of_true rfl (records.takes_iff.1 takes)⟩
  · rw [dragTo_of_not_takes takes]
    refine ⟨d, held, records.node, records.origin, iff_of_false ?_ (records.takes_iff.not.1 takes)⟩
    exact fun moved => takes (.inl moved)

/-- Apart from a move of the pointer, what does not let go of a node leaves a drag as it is. -/
theorem drag_undergo (step : l.undergo? c = some next) (kept : l.letsGo c = false)
    (stays : c.goesTo? = none) : next.drag = l.drag := by
  cases c with
  | tick dt =>
    obtain ⟨_, _, _, _, rfl⟩ := exists_of_tick step
    rfl
  | down q t =>
    cases step
    exact drag_pointerDown_beside (by simpa [letsGo] using kept)
  | wheel q turn =>
    cases step
    rfl
  | obey order =>
    cases step
    rfl
  | resize width height =>
    cases step
    rfl
  | move q t => cases stays
  | load s => cases kept
  | up => cases kept
  | leave => cases kept

omit [Scalar W] [Scalar N] [Narrowing W N] in
theorem move_of_goesTo (goes : c.goesTo? = some q) : ∃ t, c = .move q t := by
  cases c with
  | move r t =>
    cases goes
    exact ⟨t, rfl⟩
  | _ => cases goes

theorem idle_undergo (step : l.undergo? c = some next) (kept : l.letsGo c = false) (idle : l.drag = none) :
    next.drag = none := by
  cases goes : c.goesTo? with
  | none => exact (drag_undergo step kept goes).trans idle
  | some q =>
    obtain ⟨t, rfl⟩ := move_of_goesTo goes
    cases step
    unfold pointerMove
    rw [idle]
    cases l.pan with
    | some pan => exact idle
    | none =>
      dsimp only
      split <;> first | exact idle | rfl

/-- A drag goes on recording what the pointer does, until the node is let go of. -/
theorem records_undergo (step : l.undergo? c = some next) (kept : l.letsGo c = false)
    (held : l.drag = some d) (records : d.Records i p way) :
    ∃ d', next.drag = some d' ∧ d'.Records i p (way ++ c.goesTo?.toList) := by
  cases goes : c.goesTo? with
  | none =>
    refine ⟨d, (drag_undergo step kept goes).trans held, ?_⟩
    rw [Option.toList_none, List.append_nil]
    exact records
  | some q =>
    obtain ⟨t, rfl⟩ := move_of_goesTo goes
    cases step
    exact drag_pointerMove held records

/-- What lets go of a node leaves none in hand, or another one that it is a press on. -/
theorem drag_undergo_of_letsGo (step : l.undergo? c = some next) (gone : l.letsGo c = true)
    (held : next.drag = some d) : ∃ p t i, c = .down p t ∧ l.nodeAt? p t.radius = some i ∧ d.Records i p [] := by
  cases c with
  | down p t =>
    obtain ⟨i, hit⟩ := Option.isSome_iff_exists.1 gone
    obtain ⟨d', held', records⟩ := drag_pointerDown hit
    cases step
    cases held'.symm.trans held
    exact ⟨p, t, i, rfl, hit, records⟩
  | load s =>
    cases step
    cases held
  | up =>
    cases step
    cases held
  | leave =>
    cases step
    cases held
  | _ => cases gone

/-- While a node is in hand there is a drag, and it records the press and the way of the pointer. -/
theorem drag_of_inHand (hand : InHand start changes i p way) (run : start.after? changes = some l) :
    ∃ d, l.drag = some d ∧ d.Records i p way := by
  induction hand generalizing l with
  | down before hit =>
    obtain ⟨_, reached, step⟩ := after?_concat_iff.1 run
    cases before.symm.trans reached
    cases step
    exact drag_pointerDown hit
  | still hand before kept ih =>
    obtain ⟨_, reached, step⟩ := after?_concat_iff.1 run
    cases before.symm.trans reached
    obtain ⟨d, held, records⟩ := ih before
    exact records_undergo step kept held records

/-- There is no other drag. -/
theorem inHand_of_drag (fresh : start.drag = none) (run : start.after? changes = some l)
    (held : l.drag = some d) : ∃ way, InHand start changes d.node ⟨d.startX, d.startY⟩ way ∧
      d.Records d.node ⟨d.startX, d.startY⟩ way := by
  induction changes using List.reverseRecOn generalizing l d with
  | nil =>
    cases run
    cases fresh.symm.trans held
  | append_singleton changes c ih =>
    obtain ⟨before, reached, step⟩ := after?_concat_iff.1 run
    cases gone : before.letsGo c with
    | true =>
      obtain ⟨p, t, i, rfl, hit, records⟩ := drag_undergo_of_letsGo step gone held
      obtain rfl := records.node
      obtain rfl := records.origin
      exact ⟨[], .down reached hit, records⟩
    | false =>
      cases earlier : before.drag with
      | none => cases (idle_undergo step gone earlier).symm.trans held
      | some d₀ =>
        obtain ⟨way, hand, records⟩ := ih reached earlier
        obtain ⟨_, held', records'⟩ := records_undergo step gone earlier records
        cases held'.symm.trans held
        rw [records'.node, records'.origin]
        exact ⟨_, hand.still reached gone, records'⟩

/-! ## Pans -/

theorem pan_pointerMove (l : Layout W N) (p : Point W) (t : Targets W) : (l.pointerMove p t).1.pan = l.pan := by
  unfold pointerMove
  split
  · dsimp only [dragTo]
    split <;> rfl
  · rfl
  · dsimp only
    split <;> rfl

/-- A pan is on until the pointer is lifted. -/
theorem pan_undergo_iff (step : l.undergo? c = some next) : next.pan.isSome = true ↔
    (l.pan.isSome = true ∧ c.lifts = false) ∨ ∃ p t, c = .down p t ∧ l.nodeAt? p t.radius = none := by
  cases c with
  | down p t =>
    cases step
    unfold pointerDown
    cases hit : l.nodeAt? p t.radius <;> simp [Change.lifts, hit]
  | move p t =>
    cases step
    rw [pan_pointerMove]
    simp [Change.lifts]
  | tick dt =>
    obtain ⟨_, _, _, _, rfl⟩ := exists_of_tick step
    simp [Change.lifts]
  | up =>
    cases step
    simp [pointerUp, Change.lifts]
  | leave =>
    cases step
    simp [pointerLeave, Change.lifts]
  | load s =>
    cases step
    simp [load, Change.lifts]
  | wheel p turn =>
    cases step
    simp [wheel, Change.lifts]
  | obey order =>
    cases step
    simp [obey, Change.lifts]
  | resize width height =>
    cases step
    simp [resize, Change.lifts]

/-- There is a pan just while a press beside all nodes is on. -/
theorem pan_iff_panning (fresh : start.pan = none) (run : start.after? changes = some l) :
    l.pan.isSome = true ↔ Panning start changes := by
  constructor
  · intro on
    induction changes using List.reverseRecOn generalizing l with
    | nil =>
      cases run
      simp [fresh] at on
    | append_singleton changes c ih =>
      obtain ⟨before, reached, step⟩ := after?_concat_iff.1 run
      rcases (pan_undergo_iff step).1 on with ⟨already, kept⟩ | ⟨p, t, rfl, beside⟩
      · exact (ih reached already).still kept
      · exact .down reached beside
  · intro on
    induction on generalizing l with
    | down before beside =>
      obtain ⟨_, reached, step⟩ := after?_concat_iff.1 run
      cases before.symm.trans reached
      exact (pan_undergo_iff step).2 (.inr ⟨_, _, rfl, beside⟩)
    | still _ kept ih =>
      obtain ⟨before, reached, step⟩ := after?_concat_iff.1 run
      exact (pan_undergo_iff step).2 (.inl ⟨ih reached, kept⟩)

/-! ## Both at once -/

/-- A node is dragged and the view is moved. -/
def Both (l : Layout W N) : Prop :=
  l.drag.isSome = true ∧ l.pan.isSome = true

/-- After some changes a press goes down on a node while one beside all nodes is on, or the other way round. -/
inductive Crosses (start : Layout W N) (changes : List (Change W N)) : Change W N → Prop
  | onNode {l : Layout W N} {p : Point W} {t : Targets W} {i : Nat} : start.after? changes = some l →
      l.nodeAt? p t.radius = some i → Panning start changes → Crosses start changes (.down p t)
  | beside {l : Layout W N} {p q : Point W} {t : Targets W} {i : Nat} {way : List (Point W)} :
      start.after? changes = some l → l.nodeAt? p t.radius = none → InHand start changes i q way →
      Crosses start changes (.down p t)

/-- Before every press but the first the pointer is lifted. -/
def Released (changes : List (Change W N)) : Prop :=
  ∀ {earlier between later : List (Change W N)} {p q : Point W} {t u : Targets W},
    changes = earlier ++ .down p t :: (between ++ .down q u :: later) → ∃ c ∈ between, c.lifts = true

/-- In the course of some changes a drag and a pan are never on at the same time. -/
def Apart (start : Layout W N) (changes : List (Change W N)) : Prop :=
  ∀ {earlier : List (Change W N)} {l : Layout W N}, earlier <+: changes → start.after? earlier = some l →
    ¬ l.Both

theorem both_of_crosses (fresh : start.pan = none) (crosses : Crosses start changes c) :
    ∃ next, start.after? (changes ++ [c]) = some next ∧ next.Both := by
  cases crosses with
  | @onNode l p t i run hit panning =>
    have step : l.undergo? (.down p t) = some (l.pointerDown p t) := rfl
    refine ⟨l.pointerDown p t, after?_concat_iff.2 ⟨l, run, step⟩, ?_, ?_⟩
    · obtain ⟨d, held, _⟩ := drag_pointerDown hit
      rw [held]
      rfl
    · exact (pan_undergo_iff step).2 (.inl ⟨(pan_iff_panning fresh run).2 panning, rfl⟩)
  | @beside l p q t i way run beside hand =>
    have step : l.undergo? (.down p t) = some (l.pointerDown p t) := rfl
    refine ⟨l.pointerDown p t, after?_concat_iff.2 ⟨l, run, step⟩, ?_, ?_⟩
    · obtain ⟨d, held, _⟩ := drag_of_inHand hand run
      rw [drag_pointerDown_beside beside, held]
      rfl
    · exact (pan_undergo_iff step).2 (.inr ⟨p, t, rfl, beside⟩)

/-- Only a press that crosses another one leads to both at once. -/
theorem crosses_of_both (idle : start.drag = none) (fresh : start.pan = none)
    (run : start.after? changes = some l) (step : l.undergo? c = some next) (apart : ¬ l.Both)
    (both : next.Both) : Crosses start changes c := by
  obtain ⟨dragging, on⟩ := both
  obtain ⟨d, held⟩ := Option.isSome_iff_exists.1 dragging
  rcases (pan_undergo_iff step).1 on with ⟨already, _⟩ | ⟨p, t, rfl, beside⟩
  -- the pan was on before, so the drag is the new one
  · have free : l.drag = none := by
      by_contra dragged
      exact apart ⟨Option.isSome_iff_ne_none.2 dragged, already⟩
    have gone : l.letsGo c = true := by
      by_contra kept
      cases (idle_undergo step (Bool.eq_false_iff.2 kept) free).symm.trans held
    obtain ⟨p, t, i, rfl, hit, _⟩ := drag_undergo_of_letsGo step gone held
    exact .onNode run hit ((pan_iff_panning fresh run).1 already)
  -- the pan is new, and a press beside all nodes starts no drag
  · cases step
    rw [drag_pointerDown_beside beside] at held
    obtain ⟨way, hand, _⟩ := inHand_of_drag idle run held
    exact .beside run beside hand

/-- The pointer was pressed in the course of some changes, and not lifted since. -/
def PressOn (changes : List (Change W N)) : Prop :=
  ∃ earlier p t later, changes = earlier ++ .down p t :: later ∧ ∀ c ∈ later, c.lifts = false

omit [Scalar W] [Scalar N] [Narrowing W N] in
theorem PressOn.down (changes : List (Change W N)) (p : Point W) (t : Targets W) :
    PressOn (changes ++ [.down p t]) :=
  ⟨changes, p, t, [], rfl, nofun⟩

omit [Scalar W] [Scalar N] [Narrowing W N] in
theorem PressOn.still (on : PressOn changes) (kept : c.lifts = false) : PressOn (changes ++ [c]) := by
  obtain ⟨earlier, p, t, later, rfl, on⟩ := on
  refine ⟨earlier, p, t, later ++ [c], by simp, fun b member => ?_⟩
  rcases List.mem_append.1 member with before | last
  · exact on b before
  · rw [List.mem_singleton.1 last]
    exact kept

theorem Panning.pressOn (panning : Panning start changes) : PressOn changes := by
  induction panning with
  | down _ _ => exact .down ..
  | still _ kept ih => exact ih.still kept

theorem InHand.pressOn (hand : InHand start changes i p way) : PressOn changes := by
  induction hand with
  | down _ _ => exact .down ..
  | @still _ _ _ _ _ c _ _ kept ih =>
    refine ih.still ?_
    cases c <;> first | rfl | cases kept

/-- What becomes of the presses in the course of some changes. -/
structure PressesMeet (start : Layout W N) (changes : List (Change W N)) : Prop where
  /-- At any time a node is dragged just if it is in hand since a press on it, -/
  drag : ∀ {earlier : List (Change W N)} {l : Layout W N}, earlier <+: changes → start.after? earlier = some l →
    (l.drag.isSome = true ↔ ∃ i p way, InHand start earlier i p way)
  /-- and the view is moved just if a press beside all nodes is on. -/
  pan : ∀ {earlier : List (Change W N)} {l : Layout W N}, earlier <+: changes → start.after? earlier = some l →
    (l.pan.isSome = true ↔ Panning start earlier)
  /-- Both are never on at once just if no press crosses one of the other kind, -/
  apart_iff : Apart start changes ↔
    ∀ {earlier : List (Change W N)} {c : Change W N}, earlier ++ [c] <+: changes → ¬ Crosses start earlier c
  /-- and so whenever the pointer is lifted before it is pressed again. -/
  single : Released changes → Apart start changes

theorem apart_iff_not_crosses (idle : start.drag = none) (fresh : start.pan = none) : Apart start changes ↔
    ∀ {earlier : List (Change W N)} {c : Change W N}, earlier ++ [c] <+: changes →
      ¬ Crosses start earlier c := by
  constructor
  · intro apart earlier c course crosses
    obtain ⟨next, run, both⟩ := both_of_crosses fresh crosses
    exact apart course run both
  · intro uncrossed earlier l course run both
    induction earlier using List.reverseRecOn generalizing l with
    | nil =>
      cases run
      rw [Both, idle] at both
      cases both.1
    | append_singleton earlier c ih =>
      obtain ⟨before, reached, step⟩ := after?_concat_iff.1 run
      have apart : ¬ before.Both := ih ((List.prefix_append _ _).trans course) reached
      exact uncrossed course (crosses_of_both idle fresh reached step apart both)

/-- Where the pointer is lifted before each new press, no press crosses another. -/
theorem not_crosses_of_released (released : Released changes) {earlier : List (Change W N)}
    (course : earlier ++ [c] <+: changes) : ¬ Crosses start earlier c := by
  intro crosses
  obtain ⟨⟨first, p, t, between, rfl, on⟩, q, u, rfl⟩ : PressOn earlier ∧ ∃ q u, c = .down q u := by
    cases crosses with
    | onNode _ _ panning => exact ⟨panning.pressOn, _, _, rfl⟩
    | beside _ _ hand => exact ⟨hand.pressOn, _, _, rfl⟩
  obtain ⟨later, rfl⟩ := course
  have split : first ++ .down p t :: between ++ [.down q u] ++ later =
      first ++ .down p t :: (between ++ .down q u :: later) := by simp
  obtain ⟨c, member, lifts⟩ := released split
  cases (on c member).symm.trans lifts

/-- On a new canvas a drag and a pan come together just by presses that cross. -/
theorem presses_meet (width height : W) (changes : List (Change W N)) :
    PressesMeet (create width height) changes where
  drag := by
    intro earlier l _ run
    rw [Option.isSome_iff_exists]
    constructor
    · rintro ⟨d, held⟩
      obtain ⟨way, hand, _⟩ := inHand_of_drag rfl run held
      exact ⟨_, _, way, hand⟩
    · rintro ⟨i, p, way, hand⟩
      obtain ⟨d, held, _⟩ := drag_of_inHand hand run
      exact ⟨d, held⟩
  pan _ run := pan_iff_panning rfl run
  apart_iff := apart_iff_not_crosses rfl rfl
  single released := (apart_iff_not_crosses rfl rfl).2 (not_crosses_of_released released)

attribute [local instance] Session.instScalarInt Session.instNarrowingInt

/-- One node, at `(500, 300)` on a canvas of the standard size. -/
def single : Snapshot :=
  ⟨[⟨"a", [], [], 7⟩], [], false⟩

/-- What can be hit of a snapshot, with nothing switched off. -/
def allOf (s : Snapshot) : Targets Int :=
  (Interaction.initial.adopt s (.ofSnapshot s)).1.targets s

/-- A press beside the node, a release, and a press on it. -/
def pressedTwice : List (Change Int Int) :=
  [.load single, .down ⟨0, 0⟩ (allOf single), .up, .down ⟨500, 300⟩ (allOf single)]

theorem released_twice : Released pressedTwice := by
  intro earlier between later p q t u split
  rcases earlier with _ | ⟨_, _ | ⟨_, _ | ⟨_, earlier⟩⟩⟩
  · cases split
  · obtain _ | ⟨c, between⟩ := between
    · cases split
    · simp only [pressedTwice, List.cons_append, List.nil_append, List.cons.injEq] at split
      obtain ⟨_, _, rfl, _⟩ := split
      exact ⟨.up, List.mem_cons_self, rfl⟩
  · cases split
  · have short := congrArg List.length split
    simp only [pressedTwice, List.length_append, List.length_cons, List.length_nil] at short
    omega

/-- The node is dragged, and the view is not moved any more. -/
theorem presses_meet_twice : PressesMeet (create 800 600) pressedTwice ∧ Released pressedTwice ∧
    ∃ l, (create 800 600).after? pressedTwice = some l ∧ l.drag.isSome = true ∧ ¬ l.Both := by
  have meets := presses_meet 800 600 pressedTwice
  refine ⟨meets, released_twice, _, rfl, by decide +kernel, ?_⟩
  exact meets.single released_twice (List.prefix_refl _) rfl

/-- Without the release the view is moved as well. -/
theorem both_on : ¬ Apart (create 800 600 : Layout Int Int)
    [.load single, .down ⟨0, 0⟩ (allOf single), .down ⟨500, 300⟩ (allOf single)] := by
  intro apart
  exact apart (List.prefix_refl _) rfl ⟨by decide +kernel, by decide +kernel⟩

end Layout

end GraphViewer

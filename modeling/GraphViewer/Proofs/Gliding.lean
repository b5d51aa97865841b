import Mathlib.Algebra.Order.BigOperators.Group.List
import Mathlib.Order.Monotone.Basic
import GraphViewer.Proofs.ZoomLimits
/-
How the camera gets to where it is sent. In exact numbers it makes no difference how time is cut into ticks: the
camera after two of them is the camera after one that lasts as long as both. Centre and zoom each go to their end
without turning back, in their own time, and are there from the moment on that their time is over, and not before
it unless they were there from the start.
-/

namespace GraphViewer

open Scalar (nat zero one clamp)
open Narrowing (widen)

/-! ## Tweens -/

namespace Tween

variable {t : Tween ℝ} {a b : ℝ}

theorem isDone_iff : t.isDone = true ↔ t.duration ≤ 0 ∨ t.duration ≤ t.elapsed := by
  simp [isDone]

theorem after_after (t : Tween ℝ) (a b : ℝ) : (t.after a).after b = t.after (a + b) := by
  simp only [after, add_assoc]

theorem after_zero (t : Tween ℝ) : t.after 0 = t := by
  simp only [after, add_zero]

theorem value_of_isDone (done : t.isDone = true) : t.value = t.target :=
  if_pos done

/-- What is over stays over. -/
theorem isDone_after (done : t.isDone = true) (passed : 0 ≤ b) : (t.after b).isDone = true := by
  rw [isDone_iff] at done ⊢
  refine done.imp_right fun late => ?_
  exact late.trans (le_add_of_nonneg_right passed)

/-- The value stays at the target then. -/
theorem value_after_of_isDone (done : t.isDone = true) (passed : 0 ≤ b) : (t.after b).value = t.value := by
  rw [value_of_isDone done, value_of_isDone (isDone_after done passed)]
  rfl

end Tween

/-- The part of its way that a tween has covered after a time. -/
noncomputable def covered (duration time : ℝ) : ℝ :=
  if duration ≤ time then 1 else easeOut (time / duration)

theorem Tween.isDone_begun (start target duration : ℝ) {time : ℝ} (passed : 0 ≤ time) :
    (Tween.after ⟨start, target, 0, duration⟩ time).isDone = true ↔ duration ≤ time := by
  rw [isDone_iff, after, zero_add]
  exact or_iff_right_of_imp fun short => short.trans passed

/-- Going on from a start for a time. -/
theorem Tween.value_begun (start target duration : ℝ) {time : ℝ} (passed : 0 ≤ time) :
    (Tween.after ⟨start, target, 0, duration⟩ time).value =
      start + (target - start) * covered duration time := by
  have done := isDone_begun start target duration passed
  unfold value covered
  by_cases late : duration ≤ time
  · rw [if_pos (done.2 late), if_pos late]
    simp [after]
  · rw [if_neg (mt done.1 late), if_neg late]
    simp [after]

theorem Tween.isDone_unbegun (start target : ℝ) {duration : ℝ} (long : 0 < duration) :
    Tween.isDone ⟨start, target, 0, duration⟩ = false := by
  rw [Bool.eq_false_iff, ← after_zero ⟨start, target, 0, duration⟩, Ne, isDone_begun _ _ _ le_rfl]
  exact not_le.2 long

theorem covered_zero {duration : ℝ} (long : 0 < duration) : covered duration 0 = 0 := by
  rw [covered, if_neg (not_le.2 long), easeOut_eq]
  norm_num

theorem Tween.value_unbegun (start target : ℝ) {duration : ℝ} (long : 0 < duration) :
    Tween.value ⟨start, target, 0, duration⟩ = start := by
  have begun := value_begun start target duration le_rfl
  rwa [after_zero, covered_zero long, mul_zero, add_zero] at begun

theorem part_lt_one {duration time : ℝ} (passed : 0 ≤ time) (early : time < duration) :
    time / duration < 1 :=
  (div_lt_one (passed.trans_lt early)).2 early

theorem covered_le_one {duration time : ℝ} (passed : 0 ≤ time) : covered duration time ≤ 1 := by
  unfold covered
  split
  · exact le_rfl
  · rename_i early
    have rest := (sub_pos.2 (part_lt_one passed (not_le.1 early))).le
    rw [easeOut_eq]
    exact sub_le_self 1 (pow_nonneg rest 3)

/-- The whole way is covered when the time is over, and not before. -/
theorem covered_eq_one_iff {duration time : ℝ} (passed : 0 ≤ time) :
    covered duration time = 1 ↔ duration ≤ time := by
  unfold covered
  split
  · exact iff_of_true rfl ‹_›
  · rename_i early
    have rest := sub_pos.2 (part_lt_one passed (not_le.1 early))
    refine iff_of_false ?_ early
    rw [easeOut_eq, sub_eq_self]
    exact (pow_pos rest 3).ne'

theorem covered_mono (duration : ℝ) : MonotoneOn (covered duration) (Set.Ici 0) := by
  intro s begun t passed later
  by_cases late : duration ≤ t
  · exact (covered_le_one begun).trans_eq ((covered_eq_one_iff passed).2 late).symm
  · have early : ¬ duration ≤ s := fun ended => late (ended.trans later)
    have long : 0 < duration := passed.trans_lt (not_le.1 late)
    have rest : 0 ≤ 1 - t / duration := (sub_pos.2 (part_lt_one passed (not_le.1 late))).le
    have less : 1 - t / duration ≤ 1 - s / duration :=
      sub_le_sub_left (div_le_div_of_nonneg_right later long.le) 1
    rw [covered, covered, if_neg early, if_neg late, easeOut_eq, easeOut_eq]
    exact sub_le_sub_left (pow_le_pow_left₀ rest less 3) 1

/-- A number goes to its target in the course of a time, without turning back, and it is there when the time is
over, and not before it unless it is from the start. -/
structure Arrives (value : ℝ → ℝ) (start target duration : ℝ) : Prop where
  begins : 0 < duration → value 0 = start
  rises : start ≤ target → MonotoneOn value (Set.Ici 0)
  falls : target ≤ start → AntitoneOn value (Set.Ici 0)
  there : ∀ {time}, 0 ≤ time → (value time = target ↔ duration ≤ time ∨ start = target)

theorem Tween.arrives (start target duration : ℝ) :
    Arrives (fun time => start + (target - start) * covered duration time) start target duration where
  begins long := by rw [covered_zero long, mul_zero, add_zero]
  rises up s begun t passed later := by
    have more := covered_mono duration begun passed later
    exact add_le_add_right (mul_le_mul_of_nonneg_left more (sub_nonneg.2 up)) start
  falls down s begun t passed later := by
    have more := covered_mono duration begun passed later
    exact add_le_add_right (mul_le_mul_of_nonpos_left more (sub_nonpos.2 down)) start
  there := by
    intro time passed
    rw [← covered_eq_one_iff passed]
    constructor
    · intro arrived
      have rest : (target - start) * (1 - covered duration time) = 0 := by linarith
      rcases mul_eq_zero.1 rest with same | all
      · exact .inr (sub_eq_zero.1 same).symm
      · exact .inl (sub_eq_zero.1 all).symm
    · rintro (all | rfl)
      · rw [all]
        ring
      · ring

theorem Arrives.congr {value other : ℝ → ℝ} {start target duration : ℝ}
    (arrives : Arrives value start target duration) (same : ∀ time, 0 ≤ time → other time = value time) :
    Arrives other start target duration where
  begins long := (same 0 le_rfl).trans (arrives.begins long)
  rises up := (arrives.rises up).congr fun time passed => (same time passed).symm
  falls down := (arrives.falls down).congr fun time passed => (same time passed).symm
  there := by
    intro time passed
    rw [same time passed]
    exact arrives.there passed

/-! ## The camera -/

namespace Camera

/-- Both parts of the centre have come equally far. -/
def Abreast (c : Camera ℝ) : Prop :=
  ∀ tx ty, c.centring = some (tx, ty) → ty.elapsed = tx.elapsed ∧ ty.duration = tx.duration

/-- A camera as it should be when a move may be under way: the zoom is where its move is at the time. -/
structure OnCourse (c : Camera ℝ) : Prop where
  abreast : c.Abreast
  zooming : ∀ t, c.zooming = some t → t.isDone = false ∧ t.value = c.zoom

/-- The camera when it sets out for a point and a zoom. -/
noncomputable def bound (c : Camera ℝ) (x y centreMs factor zoomMs : ℝ) : Camera ℝ :=
  { c with
    centring := some (⟨c.x, x, 0, centreMs⟩, ⟨c.y, y, 0, centreMs⟩)
    zooming := some ⟨c.zoom, clamp zoomLeast zoomMost factor, 0, zoomMs⟩ }

variable {c : Camera ℝ} {a b : ℝ}

theorem tickZoom_tickZoom (c : Camera ℝ) (passed : 0 ≤ b) : (c.tickZoom a).tickZoom b = c.tickZoom (a + b) := by
  obtain ⟨x, y, zoom, centring, zooming⟩ := c
  cases zooming with
  | none => rfl
  | some t =>
    cases done : (t.after a).isDone with
    | true =>
      have still := Tween.isDone_after done passed
      have value := Tween.value_after_of_isDone done passed
      rw [Tween.after_after] at still value
      simp [tickZoom, done, still, value]
    | false => simp [tickZoom, done, Tween.after_after]

theorem tickCentre_tickCentre (abreast : c.Abreast) (passed : 0 ≤ b) :
    (c.tickCentre a).tickCentre b = c.tickCentre (a + b) := by
  obtain ⟨x, y, zoom, centring, zooming⟩ := c
  cases centring with
  | none => rfl
  | some both =>
    obtain ⟨tx, ty⟩ := both
    obtain ⟨elapsed, duration⟩ := abreast _ _ rfl
    cases done : (tx.after a).isDone with
    | true =>
      have other : (ty.after a).isDone = true := by
        rw [Tween.isDone, Tween.after, elapsed, duration]
        exact done
      have still := Tween.isDone_after done passed
      have valueX := Tween.value_after_of_isDone done passed
      have valueY := Tween.value_after_of_isDone other passed
      rw [Tween.after_after] at still valueX valueY
      simp [tickCentre, done, still, valueX, valueY]
    | false => simp [tickCentre, done, Tween.after_after]

/-- Centre and zoom do not wait for each other. -/
theorem tickZoom_tickCentre (c : Camera ℝ) (a b : ℝ) :
    (c.tickZoom a).tickCentre b = (c.tickCentre b).tickZoom a := by
  obtain ⟨x, y, zoom, _ | both, _ | t⟩ := c <;> rfl

/-- Two ticks are as good as one that lasts as long as both. -/
theorem tick_tick (abreast : c.Abreast) (passed : 0 ≤ b) : (c.tick a).tick b = c.tick (a + b) :=
  calc (c.tick a).tick b
      = (((c.tickCentre a).tickZoom a).tickCentre b).tickZoom b := rfl
    _ = (((c.tickCentre a).tickCentre b).tickZoom a).tickZoom b := by rw [tickZoom_tickCentre]
    _ = ((c.tickCentre (a + b)).tickZoom a).tickZoom b := by rw [tickCentre_tickCentre abreast passed]
    _ = (c.tickCentre (a + b)).tickZoom (a + b) := tickZoom_tickZoom _ passed
    _ = c.tick (a + b) := rfl

/-- A zoom that is where its move is stays there while no time passes. -/
theorem OnCourse.tickZoom_zero (course : c.OnCourse) : c.tickZoom 0 = c := by
  obtain ⟨x, y, zoom, centring, _ | t⟩ := c
  · rfl
  · obtain ⟨going, there⟩ := course.zooming _ rfl
    simp [tickZoom, Tween.after_zero, going, there]

/-! ### Staying on course -/

theorem onCourse_initial : (initial : Camera ℝ).OnCourse where
  abreast := nofun
  zooming := nofun

theorem onCourse_halt (c : Camera ℝ) : c.halt.OnCourse where
  abreast := nofun
  zooming := nofun

theorem Abreast.tick (abreast : c.Abreast) (ms : ℝ) : (c.tick ms).Abreast := by
  obtain ⟨x, y, zoom, _ | ⟨tx, ty⟩, _ | t⟩ := c
  · nofun
  · nofun
  all_goals
    obtain ⟨elapsed, duration⟩ := abreast _ _ rfl
    intro sx sy same
    obtain ⟨-, same⟩ := Option.ite_none_left_eq_some.1 same
    cases same
    exact ⟨congrArg (· + ms) elapsed, duration⟩

/-- The zoom has no part in it. -/
theorem Abreast.zooming (abreast : c.Abreast) (zooming : Option (Tween ℝ)) :
    Abreast { c with zooming := zooming } :=
  abreast

/-- After a tick the zoom is on course, wherever it was before. -/
theorem onCourse_tick (abreast : c.Abreast) (ms : ℝ) : (c.tick ms).OnCourse where
  abreast := abreast.tick ms
  zooming := by
    intro s same
    unfold Camera.tick tickZoom at same ⊢
    split at same
    · rename_i rests
      cases rests.symm.trans same
    · obtain ⟨going, same⟩ := Option.ite_none_left_eq_some.1 same
      cases same
      exact ⟨Bool.eq_false_iff.2 going, rfl⟩

theorem OnCourse.start (course : c.OnCourse) (duration : ℝ) : (c.start duration).OnCourse := by
  unfold Camera.start
  split
  · exact onCourse_tick course.abreast _
  · exact course

theorem OnCourse.centring (course : c.OnCourse) (x y duration : ℝ) :
    OnCourse { c with centring := some (⟨c.x, x, zero, duration⟩, ⟨c.y, y, zero, duration⟩) } where
  abreast _ _ same := by
    cases same
    exact ⟨rfl, rfl⟩
  zooming := course.zooming

theorem OnCourse.centreAt (course : c.OnCourse) (x y duration : ℝ) : (c.centreAt x y duration).OnCourse :=
  (course.centring x y duration).start duration

theorem OnCourse.zoomTo (course : c.OnCourse) (factor duration : ℝ) : (c.zoomTo factor duration).OnCourse := by
  unfold Camera.zoomTo Camera.start
  split
  · exact onCourse_tick (course.abreast.zooming _) _
  · rename_i long
    refine ⟨course.abreast, fun t same => ?_⟩
    cases same
    rw [Scalar.zero_real, not_le] at long
    rw [Scalar.zero_real]
    exact ⟨Tween.isDone_unbegun _ _ long, Tween.value_unbegun _ _ long⟩

/-! ### Setting out -/

theorem tickCentre_zooming (c : Camera ℝ) (zooming : Option (Tween ℝ)) (ms : ℝ) :
    tickCentre { c with zooming := zooming } ms = { c.tickCentre ms with zooming := zooming } := by
  obtain ⟨x, y, zoom, _ | both, zoomed⟩ := c <;> rfl

/-- A move of the centre that takes no time is over, and any other has not begun to show. The zoom stays where it
is, although it is ticked too. -/
theorem centreAt_eq (course : c.OnCourse) (x y duration : ℝ) :
    c.centreAt x y duration =
      tickCentre { c with centring := some (⟨c.x, x, 0, duration⟩, ⟨c.y, y, 0, duration⟩) } 0 := by
  have still := (course.centring x y duration).tickZoom_zero
  unfold centreAt start
  rw [Scalar.zero_real] at still ⊢
  split
  · rw [tick, ← tickZoom_tickCentre, still]
  · rename_i long
    rw [not_le] at long
    simp [tickCentre, Tween.after_zero, Tween.isDone_unbegun, Tween.value_unbegun, long]

theorem zoomTo_eq (still : c.tickCentre 0 = c) (factor duration : ℝ) :
    c.zoomTo factor duration =
      tickZoom { c with zooming := some ⟨c.zoom, clamp zoomLeast zoomMost factor, 0, duration⟩ } 0 := by
  unfold zoomTo start
  rw [Scalar.zero_real]
  split
  · rw [tick, tickCentre_zooming, still]
  · rename_i long
    rw [not_le] at long
    simp [tickZoom, Tween.after_zero, Tween.isDone_unbegun, Tween.value_unbegun, long]

/-- The camera is sent somewhere: it sets out, and no time has passed. -/
theorem sent_eq (course : c.OnCourse) (x y centreMs factor zoomMs : ℝ) :
    (c.centreAt x y centreMs).zoomTo factor zoomMs = (c.bound x y centreMs factor zoomMs).tick 0 := by
  have abreast := (course.centring x y centreMs).abreast
  rw [Scalar.zero_real] at abreast
  have still := tickCentre_tickCentre (a := 0) abreast le_rfl
  rw [add_zero] at still
  rw [centreAt_eq course, zoomTo_eq still, ← tickCentre_zooming, zoom_tickCentre]
  rfl

theorem abreast_bound (c : Camera ℝ) (x y centreMs factor zoomMs : ℝ) :
    (c.bound x y centreMs factor zoomMs).Abreast := by
  intro _ _ same
  cases same
  exact ⟨rfl, rfl⟩

/-- However time is cut, only all of it counts. -/
theorem foldl_tick (abreast : c.Abreast) (begun : ℝ) {times : List ℝ} (passed : ∀ time ∈ times, 0 ≤ time) :
    times.foldl tick (c.tick begun) = c.tick (begun + times.sum) := by
  induction times generalizing begun with
  | nil => rw [List.foldl_nil, List.sum_nil, add_zero]
  | cons time times ih =>
    have later := ih (begun + time) fun t member => passed t (List.mem_cons_of_mem _ member)
    rw [List.foldl_cons, tick_tick abreast (passed time List.mem_cons_self), later, List.sum_cons, add_assoc]

/-! ### Cameras there can be -/

/-- What can become of a camera: it is sent to a point or a zoom, stopped, left alone for a time, or moved by the
pointer on the canvas of a layout. -/
inductive Reached (N : Type) [Scalar N] [Narrowing ℝ N] : Camera ℝ → Prop
  | initial : Reached N initial
  | centreAt {c : Camera ℝ} (x y duration : ℝ) : Reached N c → Reached N (c.centreAt x y duration)
  | zoomTo {c : Camera ℝ} (factor duration : ℝ) : Reached N c → Reached N (c.zoomTo factor duration)
  | halt {c : Camera ℝ} : Reached N c → Reached N c.halt
  | tick {c : Camera ℝ} (ms : ℝ) : Reached N c → Reached N (c.tick ms)
  | wheel {l : Layout ℝ N} (p : Point ℝ) (turn : ℝ) : Reached N l.camera → Reached N (l.wheel p turn).camera
  | pan {l : Layout ℝ N} (q : Pan ℝ) (p : Point ℝ) : Reached N l.camera → Reached N (l.panTo q p).camera

theorem Reached.onCourse {N : Type} [Scalar N] [Narrowing ℝ N] (reached : c.Reached N) : c.OnCourse := by
  induction reached with
  | initial => exact onCourse_initial
  | centreAt x y duration _ course => exact course.centreAt x y duration
  | zoomTo factor duration _ course => exact course.zoomTo factor duration
  | halt _ _ => exact onCourse_halt _
  | tick ms _ course => exact onCourse_tick course.abreast ms
  | wheel p turn _ _ => exact ⟨nofun, nofun⟩
  | pan q p _ course => exact ⟨course.abreast, course.zooming⟩

end Camera

/-! ## The layout -/

namespace Layout

section

variable {W N : Type} [Scalar W] [Scalar N] [Narrowing W N]

/-- The point that an aim stands for, where there is one. -/
def sight? (l : Layout W N) : Aim → Option (Point W)
  | .node id => l.positionOf? id
  | .origin => some ⟨zero, zero⟩

/-- What has to do with the camera, other than that time passes. -/
def turns (l : Layout W N) : Change W N → Bool
  | .down p t => (l.nodeAt? p t.radius).isNone
  | .move _ _ => l.drag.isNone && l.pan.isSome
  | .wheel .. | .obey _ => true
  | _ => false

/-- The time that passes for the camera. -/
def Change.time? : Change W N → Option W
  | .tick dt => some (widen dt * nat 1000)
  | _ => none

/-- Time passes for a layout, cut in any way, and nothing else turns the camera meanwhile. -/
inductive Coasts (start : Layout W N) : List W → Layout W N → Prop
  | begin : Coasts start [] start
  | on {times : List W} {l next : Layout W N} {c : Change W N} : Coasts start times l → l.turns c = false →
      l.undergo? c = some next → Coasts start (times ++ c.time?.toList) next

end

variable {N : Type} [Scalar N] [Narrowing ℝ N] {l m next start : Layout ℝ N} {o : CameraOrder ℝ} {p : Point ℝ}

omit [Scalar N] in
theorem camera_obey (sighted : l.sight? o.aim = some p) :
    (l.obey o).camera = (l.camera.centreAt p.x p.y o.centreMs).zoomTo o.zoom o.zoomMs := by
  unfold obey
  obtain ⟨aim, zoom, centreMs, zoomMs⟩ := o
  cases aim with
  | node id =>
    dsimp only [sight?] at sighted
    dsimp only
    rw [sighted]
  | origin =>
    cases sighted
    rfl

/-- What does not turn the camera leaves it to the time that passes. -/
theorem camera_undergo {c : Change ℝ N} (free : l.turns c = false) (step : l.undergo? c = some next) :
    next.camera = c.time?.toList.foldl Camera.tick l.camera := by
  cases c with
  | tick dt => exact camera_tick step
  | down p t =>
    cases step
    obtain ⟨i, hit⟩ := Option.isSome_iff_exists.1 (Option.isNone_eq_false_iff.1 free)
    unfold pointerDown
    rw [hit]
    rfl
  | move p t =>
    cases step
    unfold pointerMove
    split
    · rename_i d _
      by_cases takes : d.Takes p
      · obtain ⟨x, y, drags⟩ := dragTo_of_takes (l := l) takes
        rw [drags]
        rfl
      · rw [dragTo_of_not_takes takes]
        rfl
    · rename_i idle panning
      simp [turns, idle, panning] at free
    · dsimp only
      split <;> rfl
  | wheel p turn => cases free
  | obey order => cases free
  | load s =>
    cases step
    rfl
  | up =>
    cases step
    rfl
  | leave =>
    cases step
    rfl
  | resize width height =>
    cases step
    rfl

theorem camera_coasts {times : List ℝ} (coasts : start.Coasts times m) :
    m.camera = times.foldl Camera.tick start.camera := by
  induction coasts with
  | begin => rfl
  | on _ free step ih => rw [camera_undergo free step, ih, List.foldl_append]

/-- Whatever happens to a layout, its camera is one there can be. -/
theorem reached_undergo {c : Change ℝ N} (reached : l.camera.Reached N) (step : l.undergo? c = some next) :
    next.camera.Reached N := by
  cases free : l.turns c with
  | false =>
    rw [camera_undergo free step]
    cases c.time? with
    | none => exact reached
    | some ms => exact reached.tick ms
  | true =>
    cases c with
    | down p t =>
      cases step
      unfold pointerDown
      rw [Option.isNone_iff_eq_none.1 free]
      exact reached.halt
    | move p t =>
      cases step
      obtain ⟨idle, panning⟩ := Bool.and_eq_true_iff.1 free
      obtain ⟨q, panning⟩ := Option.isSome_iff_exists.1 panning
      unfold pointerMove
      rw [Option.isNone_iff_eq_none.1 idle, panning]
      exact reached.pan q p
    | wheel p turn =>
      cases step
      exact reached.wheel p turn
    | obey o =>
      cases step
      unfold obey
      cases o.aim with
      | origin => exact (reached.centreAt _ _ _).zoomTo _ _
      | node id =>
        dsimp only
        split
        · exact (reached.centreAt _ _ _).zoomTo _ _
        · exact reached.zoomTo _ _
    | tick dt => cases free
    | load s => cases free
    | up => cases free
    | leave => cases free
    | resize width height => cases free

theorem reached_after {changes : List (Change ℝ N)} (reached : start.camera.Reached N)
    (run : start.after? changes = some l) : l.camera.Reached N :=
  after?_keeps (P := fun l => l.camera.Reached N) reached (fun _ earlier step => reached_undergo earlier step) run

/-- The camera goes where an order sends it. Each coordinate of the centre arrives at the point in the time for the
centre, and the zoom at its factor within the limits in its own; the moves are over when their time is, and it
makes no difference how the time is cut. -/
structure Glides (l : Layout ℝ N) (o : CameraOrder ℝ) (p : Point ℝ) : Prop where
  x : Arrives (fun time => ((l.obey o).camera.tick time).x) l.camera.x p.x o.centreMs
  y : Arrives (fun time => ((l.obey o).camera.tick time).y) l.camera.y p.y o.centreMs
  zoom : Arrives (fun time => ((l.obey o).camera.tick time).zoom) l.camera.zoom
    (clamp zoomLeast zoomMost o.zoom) o.zoomMs
  centred : ∀ {time}, 0 ≤ time → (((l.obey o).camera.tick time).centring = none ↔ o.centreMs ≤ time)
  zoomed : ∀ {time}, 0 ≤ time → (((l.obey o).camera.tick time).zooming = none ↔ o.zoomMs ≤ time)
  coasting : ∀ {times m}, (l.obey o).Coasts times m → (∀ time ∈ times, 0 ≤ time) →
    m.camera = (l.obey o).camera.tick times.sum

theorem glides_of_onCourse (course : l.camera.OnCourse) (sighted : l.sight? o.aim = some p) : l.Glides o p := by
  have abreast := l.camera.abreast_bound p.x p.y o.centreMs o.zoom o.zoomMs
  have sent := Camera.sent_eq course p.x p.y o.centreMs o.zoom o.zoomMs
  rw [← camera_obey sighted] at sent
  have later (time : ℝ) (passed : 0 ≤ time) :
      (l.obey o).camera.tick time = (l.camera.bound p.x p.y o.centreMs o.zoom o.zoomMs).tick time := by
    rw [sent, Camera.tick_tick abreast passed, zero_add]
  have arrives (start target duration : ℝ) :=
    (Tween.arrives start target duration).congr fun time passed =>
      Tween.value_begun start target duration passed
  refine ⟨?_, ?_, ?_, ?_, ?_, ?_⟩
  · refine (arrives l.camera.x p.x o.centreMs).congr fun time passed => ?_
    rw [later time passed]
    rfl
  · refine (arrives l.camera.y p.y o.centreMs).congr fun time passed => ?_
    rw [later time passed]
    rfl
  · refine (arrives l.camera.zoom _ o.zoomMs).congr fun time passed => ?_
    rw [later time passed]
    rfl
  · intro time passed
    rw [later time passed, ← Tween.isDone_begun l.camera.x p.x o.centreMs passed]
    simp [Camera.bound, Camera.tick, Camera.tickCentre, Camera.tickZoom]
  · intro time passed
    rw [later time passed, ← Tween.isDone_begun l.camera.zoom (clamp zoomLeast zoomMost o.zoom) o.zoomMs passed]
    simp [Camera.bound, Camera.tick, Camera.tickCentre, Camera.tickZoom]
  · intro times m coasts passed
    rw [camera_coasts coasts, sent, Camera.foldl_tick abreast 0 passed, Camera.tick_tick abreast]
    exact List.sum_nonneg passed

/-- The camera keeps pace with time: two ticks are as good as one that lasts as long as both, and it glides to where
it is sent. -/
structure KeepsPace (l : Layout ℝ N) : Prop where
  additive : ∀ {a b}, 0 ≤ a → 0 ≤ b → (l.camera.tick a).tick b = l.camera.tick (a + b)
  glides : ∀ {o p}, l.sight? o.aim = some p → l.Glides o p

/-- Whatever has become of the camera, it keeps pace with time. -/
theorem keeps_pace (reached : l.camera.Reached N) : l.KeepsPace where
  additive _ passed := Camera.tick_tick reached.onCourse.abreast passed
  glides := glides_of_onCourse reached.onCourse

/-- A node that is looked for. -/
noncomputable def lookedFor : Layout ℝ ℝ :=
  { create (nat 800) (nat 600) with physics := ⟨#[Particle.atRest "a" (nat 30) (-nat 10) false], []⟩ }

/-- After a step of the wheel the node is looked at, from nearer than can be: the centre is there before the zoom. -/
theorem keeps_pace_lookedFor : ∃ l, lookedFor.after? [.wheel ⟨500, 300⟩ (-1)] = some l ∧
    l.camera.Reached ℝ ∧ l.KeepsPace ∧ l.sight? (.node "a") = some ⟨30, -10⟩ ∧
    ((l.obey ⟨.node "a", 20, 400, 600⟩).camera.tick 450).x = 30 ∧
    ((l.obey ⟨.node "a", 20, 400, 600⟩).camera.tick 450).zoom ≠ 10 := by
  have run : lookedFor.after? [.wheel ⟨500, 300⟩ (-1)] = some (lookedFor.wheel ⟨500, 300⟩ (-1)) := rfl
  have reached := reached_after .initial run
  have pace := keeps_pace reached
  have glides := pace.glides (o := ⟨.node "a", 20, 400, 600⟩) (p := ⟨30, -10⟩) rfl
  have passed : (0 : ℝ) ≤ 450 := by norm_num
  refine ⟨_, run, reached, pace, rfl, (glides.x.there passed).2 (.inl ?_), ?_⟩
  · norm_num
  · have clamped : clamp zoomLeast zoomMost (20 : ℝ) = 10 := by
      norm_num [clamp, zoomLeast_real, zoomMost_real]
    have there := glides.zoom.there passed
    rw [clamped] at there
    refine mt there.1 ?_
    norm_num [lookedFor, wheel, create, Camera.initial, clamp, zoomLeast_real, zoomMost_real]

end Layout

end GraphViewer

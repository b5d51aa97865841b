import Mathlib.Analysis.Convex.Basic
import Mathlib.Tactic.Linarith
import Mathlib.Tactic.NormNum
import GraphViewer.Proofs.Exact
import GraphViewer.Proofs.Presses
/-
The limits of the zoom. In exact numbers the zoom never leaves its limits, whatever happens to a layout: a
wheel step and the end of a move are held within them, and a move on its way stays between its two ends. So
the zoom is never zero, and what is divided by it is divided by a number.
-/

namespace GraphViewer

open Scalar (nat zero one clamp isZero)
open Narrowing (widen)

/-- The zooms within the limits. -/
def zoomRange : Set ℝ :=
  Set.Icc zoomLeast zoomMost

theorem zoomLeast_real : (zoomLeast : ℝ) = 1 / 10 := by
  simp [zoomLeast]

theorem zoomMost_real : (zoomMost : ℝ) = 10 := by
  simp [zoomMost]

theorem ne_zero_of_mem_zoomRange {k : ℝ} (inside : k ∈ zoomRange) : k ≠ 0 := by
  have least := inside.1
  rw [zoomLeast_real] at least
  intro same
  linarith

theorem clamp_mem_zoomRange (k : ℝ) : clamp zoomLeast zoomMost k ∈ zoomRange := by
  have ends : (zoomLeast : ℝ) ≤ zoomMost := by
    rw [zoomLeast_real, zoomMost_real]
    norm_num
  unfold clamp
  split
  · exact ⟨le_rfl, ends⟩
  · split
    · exact ⟨ends, le_rfl⟩
    · exact ⟨not_lt.1 ‹_›, not_lt.1 ‹_›⟩

theorem easeOut_eq (t : ℝ) : easeOut t = 1 - (1 - t) ^ 3 := by
  rw [easeOut, Scalar.one_real]
  ring

/-- Easing goes from nothing to all of the way, and never beyond. -/
theorem easeOut_mem {t : ℝ} (part : t ∈ Set.Icc 0 1) : easeOut t ∈ Set.Icc (0 : ℝ) 1 := by
  have rest : 0 ≤ 1 - t := sub_nonneg.2 part.2
  have less : 1 - t ≤ 1 := by linarith [part.1]
  have cube : (1 - t) ^ 3 ≤ 1 := pow_le_one₀ rest less
  rw [easeOut_eq]
  exact ⟨sub_nonneg.2 cube, sub_le_self 1 (pow_nonneg rest 3)⟩

/-! ## The camera -/

/-- A move of the zoom that begins and ends within the limits, and has not begun in the future. -/
structure Tween.Within (t : Tween ℝ) : Prop where
  start : t.start ∈ zoomRange
  target : t.target ∈ zoomRange
  begun : 0 ≤ t.elapsed

namespace Tween

variable {t : Tween ℝ}

theorem Within.after {ms : ℝ} (within : t.Within) (passed : 0 ≤ ms) : (t.after ms).Within where
  start := within.start
  target := within.target
  begun := add_nonneg within.begun passed

/-- A move that is not done yet has covered a part of its time. -/
theorem part_mem (begun : 0 ≤ t.elapsed) (going : t.isDone = false) :
    t.elapsed / t.duration ∈ Set.Icc (0 : ℝ) 1 := by
  simp only [isDone, Bool.or_eq_false_iff, decide_eq_false_iff_not, not_le, Scalar.zero_real] at going
  obtain ⟨long, early⟩ := going
  exact ⟨div_nonneg begun long.le, (div_le_one long).2 early.le⟩

/-- On its way, the zoom is between the ends of the move. -/
theorem Within.value (within : t.Within) : t.value ∈ zoomRange := by
  unfold Tween.value
  cases going : t.isDone with
  | true => exact within.target
  | false =>
    have eased := easeOut_mem (part_mem within.begun going)
    have convex : Convex ℝ zoomRange := convex_Icc _ _
    have between := convex.add_smul_sub_mem within.start within.target eased
    rwa [smul_eq_mul, mul_comm] at between

end Tween

/-- The zoom is within its limits, and will be when it gets to where it is going. -/
structure Camera.Within (c : Camera ℝ) : Prop where
  zoom : c.zoom ∈ zoomRange
  zooming : ∀ t, c.zooming = some t → t.Within

namespace Camera

variable {c : Camera ℝ}

theorem zoom_tickCentre (c : Camera ℝ) (ms : ℝ) : (c.tickCentre ms).zoom = c.zoom := by
  unfold tickCentre
  split <;> rfl

theorem zooming_tickCentre (c : Camera ℝ) (ms : ℝ) : (c.tickCentre ms).zooming = c.zooming := by
  unfold tickCentre
  split <;> rfl

theorem within_initial : (initial : Camera ℝ).Within where
  zoom := by
    have least : (zoomLeast : ℝ) ≤ 1 := by
      rw [zoomLeast_real]
      norm_num
    have most : (1 : ℝ) ≤ zoomMost := by
      rw [zoomMost_real]
      norm_num
    show (one : ℝ) ∈ zoomRange
    rw [Scalar.one_real]
    exact ⟨least, most⟩
  zooming := nofun

theorem Within.tickZoom {ms : ℝ} (within : c.Within) (passed : 0 ≤ ms) : (c.tickZoom ms).Within := by
  unfold Camera.tickZoom
  cases moving : c.zooming with
  | none => exact within
  | some t =>
    have later := (within.zooming t moving).after passed
    refine ⟨later.value, fun next same => ?_⟩
    dsimp only at same
    split at same
    · cases same
    · cases same
      exact later

theorem Within.tick {ms : ℝ} (within : c.Within) (passed : 0 ≤ ms) : (c.tick ms).Within := by
  refine Within.tickZoom ⟨?_, ?_⟩ passed
  · rw [zoom_tickCentre]
    exact within.zoom
  · rw [zooming_tickCentre]
    exact within.zooming

/-- A move that takes no time ends at once, by a tick of no length. -/
theorem Within.start (within : c.Within) (duration : ℝ) : (c.start duration).Within := by
  unfold Camera.start
  split
  · exact within.tick (le_of_eq Scalar.zero_real.symm)
  · exact within

theorem Within.centreAt (within : c.Within) (x y duration : ℝ) : (c.centreAt x y duration).Within := by
  have begun : Within { c with centring := some (⟨c.x, x, zero, duration⟩, ⟨c.y, y, zero, duration⟩) } :=
    ⟨within.zoom, within.zooming⟩
  exact begun.start duration

theorem Within.zoomTo (within : c.Within) (factor duration : ℝ) : (c.zoomTo factor duration).Within := by
  have begun : Within { c with zooming := some ⟨c.zoom, clamp zoomLeast zoomMost factor, zero, duration⟩ } := by
    refine ⟨within.zoom, fun t same => ?_⟩
    cases same
    exact ⟨within.zoom, clamp_mem_zoomRange factor, le_of_eq Scalar.zero_real.symm⟩
  exact begun.start duration

theorem Within.halt (within : c.Within) : c.halt.Within :=
  ⟨within.zoom, nofun⟩

end Camera

/-! ## The layout -/

namespace Layout

variable {N : Type} [Scalar N] [Narrowing ℝ N] {l next : Layout ℝ N} {c : Change ℝ N}

/-- Time goes forward, if it is time that passes. -/
def Change.Forward : Change ℝ N → Prop
  | .tick dt => 0 ≤ (widen dt : ℝ)
  | _ => True

theorem camera_tick {W N : Type} [Scalar W] [Scalar N] [Narrowing W N] {l next : Layout W N} {dt : N}
    (ticked : l.tick? dt = some next) : next.camera = l.camera.tick (widen dt * nat 1000) := by
  obtain ⟨physics, _, same⟩ := Option.bind_eq_some_iff.1 ticked
  cases same
  rfl

omit [Scalar N] in
theorem within_obey (within : l.camera.Within) (o : CameraOrder ℝ) : (l.obey o).camera.Within := by
  unfold obey
  refine Camera.Within.zoomTo ?_ _ _
  cases o.aim with
  | origin => exact within.centreAt _ _ _
  | node id =>
    dsimp only
    split
    · exact within.centreAt _ _ _
    · exact within

theorem within_pointerMove (within : l.camera.Within) (p : Point ℝ) (t : Targets ℝ) :
    (l.pointerMove p t).1.camera.Within := by
  unfold pointerMove
  split
  · unfold dragTo
    dsimp only
    split <;> exact within
  · exact ⟨within.zoom, within.zooming⟩
  · dsimp only
    split <;> exact within

omit [Scalar N] [Narrowing ℝ N] in
theorem within_wheel (l : Layout ℝ N) (p : Point ℝ) (turn : ℝ) : (l.wheel p turn).camera.Within :=
  ⟨clamp_mem_zoomRange _, nofun⟩

/-- Whatever happens, the zoom stays within its limits. -/
theorem within_undergo (within : l.camera.Within) (forward : c.Forward) (step : l.undergo? c = some next) :
    next.camera.Within := by
  cases c with
  | tick dt =>
    rw [camera_tick step]
    refine within.tick (mul_nonneg forward ?_)
    exact Nat.cast_nonneg _
  | down p t =>
    cases step
    unfold pointerDown
    split
    · exact within
    · exact within.halt
  | move p t =>
    cases step
    exact within_pointerMove within p t
  | wheel p turn =>
    cases step
    exact within_wheel l p turn
  | obey order =>
    cases step
    exact within_obey within order
  | load s =>
    cases step
    exact within
  | up =>
    cases step
    exact within
  | leave =>
    cases step
    exact within
  | resize width height =>
    cases step
    exact within

theorem within_after {start : Layout ℝ N} {changes : List (Change ℝ N)} (within : start.camera.Within)
    (forward : ∀ c ∈ changes, c.Forward) (run : start.after? changes = some l) : l.camera.Within :=
  after?_keeps (P := fun l => l.camera.Within) within
    (fun member earlier step => within_undergo earlier (forward _ member) step) run

/-! ## Divisions -/

/-- Exact numbers once more, where a division by zero comes out at anything. -/
@[reducible] noncomputable def dividingByZero (byZero : ℝ → ℝ) : Scalar ℝ :=
  { instScalarReal with toDiv := ⟨fun a b => if b = 0 then byZero a else a / b⟩ }

section

variable (byZero : ℝ → ℝ)

/-- A quotient that is not by zero is the same as ever. -/
theorem quotient_eq {a b : ℝ} (divisor : b ≠ 0) :
    @HDiv.hDiv ℝ ℝ ℝ (@instHDiv ℝ (dividingByZero byZero).toDiv) a b = a / b :=
  if_neg divisor

theorem nat_dividingByZero (n : ℕ) : @nat ℝ (dividingByZero byZero) n = n :=
  rfl

/-- The limits of the zoom are the same as ever too. -/
theorem limits_dividingByZero (k : ℝ) :
    @clamp ℝ (dividingByZero byZero) (@zoomLeast ℝ (dividingByZero byZero)) (@zoomMost ℝ (dividingByZero byZero)) k =
      clamp zoomLeast zoomMost k := by
  have least : @zoomLeast ℝ (dividingByZero byZero) = zoomLeast :=
    quotient_eq byZero (Nat.cast_ne_zero.2 (by decide))
  rw [least]
  rfl

/-- A segment of no length is found out before anything is divided by its length. -/
theorem segmentDistance_dividingByZero (p a b : Point ℝ) :
    @segmentDistance ℝ (dividingByZero byZero) p a b = segmentDistance p a b := by
  have part : @nearestPart ℝ (dividingByZero byZero) p a b = nearestPart p a b := by
    unfold nearestPart
    dsimp only
    cases point : isZero ((b.x - a.x) * (b.x - a.x) + (b.y - a.y) * (b.y - a.y)) with
    | true =>
      rw [if_pos rfl]
      exact if_pos point
    | false =>
      have long : (b.x - a.x) * (b.x - a.x) + (b.y - a.y) * (b.y - a.y) ≠ 0 := by
        intro none
        simp [none, isZero] at point
      rw [if_neg Bool.false_ne_true, ← quotient_eq byZero long]
      exact if_neg (Bool.eq_false_iff.1 point)
  unfold segmentDistance
  rw [part]
  rfl

variable (zoomed : l.camera.zoom ≠ 0)

include zoomed

omit [Scalar N] [Narrowing ℝ N] in
theorem toGraph_dividingByZero (p : Point ℝ) :
    @toGraph ℝ N (dividingByZero byZero) l p = l.toGraph p := by
  have two : ((2 : ℕ) : ℝ) ≠ 0 := Nat.cast_ne_zero.2 (by decide)
  simp only [toGraph, transform, nat_dividingByZero, quotient_eq byZero zoomed, quotient_eq byZero two]
  rfl

omit [Scalar N] in
theorem nodeAt_dividingByZero (p : Point ℝ) (radius : ℕ → Option ℝ) :
    @nodeAt? ℝ N (dividingByZero byZero) _ l p radius = l.nodeAt? p radius := by
  unfold nodeAt?
  rw [toGraph_dividingByZero byZero zoomed]
  rfl

omit [Scalar N] in
theorem linkAt_dividingByZero (p : Point ℝ) (visible : EdgeIndex → Bool) :
    @linkAt? ℝ N (dividingByZero byZero) _ l p visible = l.linkAt? p visible := by
  have distance (g : Point ℝ) (e : LayoutEdge) :
      @linkDistance? ℝ N (dividingByZero byZero) _ l g e = l.linkDistance? g e := by
    unfold linkDistance?
    simp only [segmentDistance_dividingByZero]
  unfold linkAt?
  simp only [toGraph_dividingByZero byZero zoomed, distance, quotient_eq byZero zoomed]
  rfl

theorem pointerMove_dividingByZero (p : Point ℝ) (t : Targets ℝ) :
    @pointerMove ℝ N (dividingByZero byZero) _ _ l p t = l.pointerMove p t := by
  have under : @under ℝ N (dividingByZero byZero) _ l p t = l.under p t := by
    unfold Layout.under
    rw [nodeAt_dividingByZero byZero zoomed, linkAt_dividingByZero byZero zoomed]
  unfold pointerMove
  cases l.drag with
  | some d =>
    dsimp only [dragTo]
    rw [quotient_eq byZero zoomed, quotient_eq byZero zoomed]
    rfl
  | none =>
    cases l.pan with
    | some q =>
      dsimp only [panTo]
      rw [quotient_eq byZero zoomed, quotient_eq byZero zoomed]
    | none =>
      dsimp only
      rw [under]

omit [Scalar N] [Narrowing ℝ N] in
/-- A wheel step divides by the zoom that it comes to, which is held within the limits. -/
theorem wheel_dividingByZero (p : Point ℝ) (turn : ℝ) :
    @wheel ℝ N (dividingByZero byZero) l p turn = l.wheel p turn := by
  have two : ((2 : ℕ) : ℝ) ≠ 0 := Nat.cast_ne_zero.2 (by decide)
  have ten : ((10 : ℕ) : ℝ) ≠ 0 := Nat.cast_ne_zero.2 (by decide)
  have held (k : ℝ) : clamp zoomLeast zoomMost k ≠ 0 := ne_zero_of_mem_zoomRange (clamp_mem_zoomRange k)
  unfold wheel
  simp only [toGraph_dividingByZero byZero zoomed, nat_dividingByZero, limits_dividingByZero,
    quotient_eq byZero two, quotient_eq byZero ten, quotient_eq byZero (held _)]
  rfl

end

/-- Nothing that is worked out of a layout for the pointer depends on what a division by zero comes out at. -/
structure NeverByZero (l : Layout ℝ N) : Prop where
  toGraph : ∀ byZero p, @toGraph ℝ N (dividingByZero byZero) l p = l.toGraph p
  nodeAt : ∀ byZero p radius, @nodeAt? ℝ N (dividingByZero byZero) _ l p radius = l.nodeAt? p radius
  linkAt : ∀ byZero p visible, @linkAt? ℝ N (dividingByZero byZero) _ l p visible = l.linkAt? p visible
  move : ∀ byZero p t, @pointerMove ℝ N (dividingByZero byZero) _ _ l p t = l.pointerMove p t
  wheel : ∀ byZero p turn, @wheel ℝ N (dividingByZero byZero) l p turn = l.wheel p turn

theorem neverByZero_of_zoomed (zoomed : l.camera.zoom ≠ 0) : l.NeverByZero where
  toGraph byZero := toGraph_dividingByZero byZero zoomed
  nodeAt byZero := nodeAt_dividingByZero byZero zoomed
  linkAt byZero := linkAt_dividingByZero byZero zoomed
  move byZero := pointerMove_dividingByZero byZero zoomed
  wheel byZero := wheel_dividingByZero byZero zoomed

/-- Whatever has happened to a new layout, its zoom is within the limits, and nothing is divided by zero. -/
theorem zoom_limited (width height : ℝ) {changes : List (Change ℝ N)} (forward : ∀ c ∈ changes, c.Forward)
    (run : (create width height).after? changes = some l) :
    l.camera.zoom ∈ Set.Icc zoomLeast zoomMost ∧ l.NeverByZero := by
  have within : l.camera.Within := within_after Camera.within_initial forward run
  exact ⟨within.zoom, neverByZero_of_zoomed (ne_zero_of_mem_zoomRange within.zoom)⟩

/-- The zoom is sent beyond its limit, and is half of the time on its way. -/
noncomputable def nearing : List (Change ℝ ℝ) :=
  [.obey ⟨.origin, nat 20, -nat 5, nat 600⟩, .tick (nat 3 / nat 10)]

theorem zoom_limited_nearing : (∀ c ∈ nearing, c.Forward) ∧
    ∃ l, (create 800 600).after? nearing = some l ∧ l.camera.zoom = 71 / 8 ∧
      l.camera.zoom ∈ Set.Icc zoomLeast zoomMost ∧ l.NeverByZero := by
  have forward : ∀ c ∈ nearing, c.Forward := by
    simp [nearing, Change.Forward, widen]
    norm_num
  refine ⟨forward, _, rfl, ?_, zoom_limited 800 600 forward rfl⟩
  have clamped : clamp zoomLeast zoomMost (20 : ℝ) = 10 := by
    norm_num [clamp, zoomLeast_real, zoomMost_real]
  simp [obey, create, Camera.centreAt, Camera.zoomTo, Camera.start, Camera.tick, Camera.tickCentre,
    Camera.tickZoom, Camera.initial, Tween.after, Tween.value, Tween.isDone, easeOut, clamped, widen]
  norm_num

end Layout

end GraphViewer

import GraphViewer.Proofs.Grip
/-
Turning the wheel. However often and whichever way the wheel is turned while the pointer stays where it is, the
point of the graph under the pointer stays there, also when the zoom comes to one of its limits. A step takes the
zoom on by a tenth of what it is, within the limits. The first step ends whatever the camera was on its way to, and
from then on time leaves the camera alone, until it is sent somewhere again.
-/

namespace GraphViewer

open Scalar (nat zero clamp)

/-- The zoom after a step of the wheel: a tenth more, or a tenth less for a positive turn, but from a tenth to ten. -/
noncomputable def zoomAfter (zoom turn : ℝ) : ℝ :=
  max (1 / 10) (min 10 (zoom * if 0 < turn then 9 / 10 else 11 / 10))

theorem clamp_zoom_eq (k : ℝ) : clamp zoomLeast zoomMost k = max (1 / 10) (min 10 k) := by
  rw [zoomLeast_real, zoomMost_real]
  unfold clamp
  split
  · rename_i below
    rw [max_eq_left ((min_le_right 10 k).trans below.le)]
  · rename_i least
    split
    · rename_i above
      rw [min_eq_left above.le, max_eq_right]
      norm_num
    · rename_i most
      rw [min_eq_right (not_lt.1 most), max_eq_right (not_lt.1 least)]

namespace Layout

section

variable {W N : Type} [Scalar W] [Scalar N] [Narrowing W N] {l next : Layout W N} {c : Change W N}

/-- The wheel is turned again and again, with the pointer at one point. -/
def wheelThrough (l : Layout W N) (p : Point W) (turns : List W) : Layout W N :=
  turns.foldl (fun l turn => l.wheel p turn) l

/-- The camera is sent somewhere. -/
def Change.sends : Change W N → Bool
  | .obey _ => true
  | _ => false

/-- A camera at rest stays so until it is sent somewhere. -/
theorem atRest_undergo (rest : l.camera.AtRest) (unsent : c.sends = false) (step : l.undergo? c = some next) :
    next.camera.AtRest := by
  cases c with
  | tick dt =>
    rw [tick_of_atRest step rest]
    exact rest
  | down p t =>
    cases step
    unfold pointerDown
    split
    · exact rest
    · exact ⟨rfl, rfl⟩
  | move p t =>
    cases step
    unfold pointerMove
    split
    · dsimp only [dragTo]
      split <;> exact rest
    · exact rest
    · dsimp only
      split <;> exact rest
  | wheel p turn =>
    cases step
    exact ⟨rfl, rfl⟩
  | obey order => cases unsent
  | load s =>
    cases step
    exact rest
  | up =>
    cases step
    exact rest
  | leave =>
    cases step
    exact rest
  | resize width height =>
    cases step
    exact rest

theorem atRest_after {start : Layout W N} {changes : List (Change W N)} (rest : start.camera.AtRest)
    (unsent : ∀ c ∈ changes, c.sends = false) (run : start.after? changes = some l) : l.camera.AtRest :=
  after?_keeps (P := fun l => l.camera.AtRest) rest
    (fun member earlier step => atRest_undergo earlier (unsent _ member) step) run

omit [Scalar N] [Narrowing W N] in
/-- The last step of the wheel has stopped the camera. -/
theorem atRest_wheelThrough (l : Layout W N) (p : Point W) {turns : List W} (turned : turns ≠ []) :
    (l.wheelThrough p turns).camera.AtRest := by
  obtain ⟨earlier, last, rfl⟩ := List.eq_nil_or_concat' turns |>.resolve_left turned
  rw [wheelThrough, List.foldl_append]
  exact ⟨rfl, rfl⟩

end

/-! ## Exact numbers -/

variable {N : Type}

theorem zoom_wheel (l : Layout ℝ N) (p : Point ℝ) (turn : ℝ) :
    (l.wheel p turn).camera.zoom = zoomAfter l.camera.zoom turn := by
  have factor : (if (zero : ℝ) < turn then nat 9 / nat 10 else nat 11 / nat 10 : ℝ) =
      if 0 < turn then 9 / 10 else 11 / 10 := by
    simp
  rw [zoomAfter, ← clamp_zoom_eq, ← factor]
  rfl

/-- A step puts the centre where the point under the pointer is as far off it as the pointer is off the middle of
the canvas, in the new zoom. -/
theorem toGraph_wheel (l : Layout ℝ N) (p : Point ℝ) (turn : ℝ) : (l.wheel p turn).toGraph p = l.toGraph p := by
  have zoomed : (l.wheel p turn).camera.zoom ≠ 0 := ne_zero_of_mem_zoomRange (l.within_wheel p turn).zoom
  have x : (l.wheel p turn).camera.x =
      (l.toGraph p).x - (p.x - (l.wheel p turn).middle.x) / (l.wheel p turn).camera.zoom := rfl
  have y : (l.wheel p turn).camera.y =
      (l.toGraph p).y - (p.y - (l.wheel p turn).middle.y) / (l.wheel p turn).camera.zoom := rfl
  rw [toGraph_eq zoomed, x, y, sub_add_cancel, sub_add_cancel]

theorem toGraph_wheelThrough (l : Layout ℝ N) (p : Point ℝ) (turns : List ℝ) :
    (l.wheelThrough p turns).toGraph p = l.toGraph p := by
  induction turns generalizing l with
  | nil => rfl
  | cons turn turns ih => exact (ih (l.wheel p turn)).trans (l.toGraph_wheel p turn)

theorem zoom_wheelThrough (l : Layout ℝ N) (p : Point ℝ) (turns : List ℝ) :
    (l.wheelThrough p turns).camera.zoom = turns.foldl zoomAfter l.camera.zoom := by
  induction turns generalizing l with
  | nil => rfl
  | cons turn turns ih =>
    rw [List.foldl_cons, ← zoom_wheel l p turn]
    exact ih (l.wheel p turn)

theorem mem_zoomRange_wheelThrough (l : Layout ℝ N) (p : Point ℝ) (turns : List ℝ)
    (inside : l.camera.zoom ∈ zoomRange) : (l.wheelThrough p turns).camera.zoom ∈ zoomRange := by
  induction turns generalizing l with
  | nil => exact inside
  | cons turn turns ih => exact ih (l.wheel p turn) (l.within_wheel p turn).zoom

variable [Scalar N] [Narrowing ℝ N]

/-- What comes of turning the wheel some times with the pointer at a point. -/
structure TurnsAbout (l : Layout ℝ N) (p : Point ℝ) (turns : List ℝ) : Prop where
  /-- The same point of the graph is under the pointer as before, -/
  point : (l.wheelThrough p turns).toGraph p = l.toGraph p
  /-- and neither before nor after does it depend on what a division by zero comes out at; -/
  divided : l.NeverByZero ∧ (l.wheelThrough p turns).NeverByZero
  /-- the zoom has gone step by step, -/
  zoom : (l.wheelThrough p turns).camera.zoom = turns.foldl zoomAfter l.camera.zoom
  /-- and time leaves the camera alone, whatever happens, until it is sent somewhere. -/
  still : ∀ {later m}, (∀ c ∈ later, c.sends = false) → (l.wheelThrough p turns).after? later = some m →
    (∀ ms, m.camera.tick ms = m.camera) ∧ ∀ {dt next}, m.tick? dt = some next → next.camera = m.camera

/-- Turning the wheel zooms about the pointer, wherever that is and whatever the camera was on its way to. -/
theorem turns_about (l : Layout ℝ N) (inside : l.camera.zoom ∈ zoomRange) (p : Point ℝ) {turns : List ℝ}
    (turned : turns ≠ []) : l.TurnsAbout p turns where
  point := l.toGraph_wheelThrough p turns
  divided := by
    have after := l.mem_zoomRange_wheelThrough p turns inside
    exact ⟨neverByZero_of_zoomed (ne_zero_of_mem_zoomRange inside),
      neverByZero_of_zoomed (ne_zero_of_mem_zoomRange after)⟩
  zoom := l.zoom_wheelThrough p turns
  still unsent run := by
    have rest := atRest_after (l.atRest_wheelThrough p turned) unsent run
    exact ⟨Camera.tick_of_atRest rest, fun ticked => tick_of_atRest ticked rest⟩

/-- The camera is on its way, and almost as near as it can be. -/
noncomputable def almostNearest : Layout ℝ ℝ :=
  { create (nat 800) (nat 600) with
    camera := ⟨nat 5, nat 7, nat 19 / nat 2, some (⟨0, nat 9, 1, nat 2⟩, ⟨0, nat 9, 1, nat 2⟩),
      some ⟨nat 9, nat 10, 1, nat 2⟩⟩ }

/-- Two steps nearer and one back, with the pointer off the canvas: the first step comes to the limit. -/
theorem turns_about_limit : almostNearest.camera.zoom ∈ zoomRange ∧ [-1, -1, 1] ≠ ([] : List ℝ) ∧
    almostNearest.TurnsAbout ⟨-20, 80⟩ [-1, -1, 1] ∧
    (almostNearest.wheelThrough ⟨-20, 80⟩ [-1, -1, 1]).camera.zoom = 9 := by
  have inside : almostNearest.camera.zoom ∈ zoomRange := by
    rw [zoomRange, zoomLeast_real, zoomMost_real]
    norm_num [almostNearest]
  have turned : [-1, -1, 1] ≠ ([] : List ℝ) := List.cons_ne_nil _ _
  have about := almostNearest.turns_about inside ⟨-20, 80⟩ turned
  refine ⟨inside, turned, about, ?_⟩
  rw [about.zoom]
  norm_num [almostNearest, zoomAfter]

end Layout

end GraphViewer

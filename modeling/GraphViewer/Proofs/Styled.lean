import GraphViewer.Proofs.Painted
/-
What a canvas shows of a frame, with colours, widths and texts. Whatever settings are left over from before, each
shape comes out in the colour and width that it is meant to have, and each node with its label once, as every
piece of a frame makes the settings that it needs.
-/

namespace GraphViewer

open Scalar (nat zero)

/-! ## Canvas -/

/-- The settings of a canvas for the strokes that come. -/
structure Ink (W : Type) where
  fill : String
  outline : String
  width : W
  font : String

/-- Something that is seen on a canvas, in the way in which it was painted. -/
inductive Look (W : Type) where
  | block (corner : Point W) (width height : W) (colour : String)
  | filled (shape : Shape W) (colour : String)
  | outlined (shape : Shape W) (colour : String) (width : W)
  | text (text : String) (start : Point W) (font colour : String)

/-- A canvas with its pen and its settings. -/
structure Easel (W : Type) where
  pen : Pen W
  ink : Ink W
  /-- The settings to go back to, the latest first. -/
  saved : List (Ink W)

section

variable {W : Type} [Scalar W]

namespace Easel

/-- A canvas that nothing has been painted on, with any settings. -/
def blank (ink : Ink W) : Easel W := ⟨.fresh, ink, []⟩

/-- The settings after a stroke. -/
def inkAfter (e : Easel W) : Stroke W → Ink W
  | .fillStyle colour => { e.ink with fill := colour }
  | .strokeStyle colour => { e.ink with outline := colour }
  | .lineWidth width => { e.ink with width := width }
  | .font description => { e.ink with font := description }
  | .restore => e.saved.head?.getD e.ink
  | _ => e.ink

def after (e : Easel W) (s : Stroke W) : Easel W where
  pen := e.pen.after s
  ink := e.inkAfter s
  saved := match s with
    | .save => e.ink :: e.saved
    | .restore => e.saved.tail
    | _ => e.saved

/-- What one stroke paints. -/
def looks (e : Easel W) : Stroke W → List (Placed W (Look W))
  | .fillRect x y width height => [⟨.block ⟨x, y⟩ width height e.ink.fill, e.pen.place⟩]
  | .fill => e.pen.path.map fun s => ⟨.filled s.what e.ink.fill, s.place⟩
  | .stroke => e.pen.path.map fun s => ⟨.outlined s.what e.ink.outline e.ink.width, s.place⟩
  | .fillText text x y => [⟨.text text ⟨x, y⟩ e.ink.font e.ink.fill, e.pen.place⟩]
  | _ => []

/-- What some strokes paint, one after the other. -/
def shows (e : Easel W) : List (Stroke W) → List (Placed W (Look W))
  | [] => []
  | s :: rest => e.looks s ++ (e.after s).shows rest

theorem shows_append (e : Easel W) (first second : List (Stroke W)) :
    e.shows (first ++ second) = e.shows first ++ (first.foldl after e).shows second := by
  induction first generalizing e with
  | nil => rfl
  | cons s rest ih =>
    show e.looks s ++ (e.after s).shows (rest ++ second) = _
    rw [ih, ← List.append_assoc]
    rfl

end Easel

/-- Strokes that come out as some looks wherever the canvas has been moved to, whatever its path and its settings
were, and leave the canvas there. -/
structure Depicts (strokes : List (Stroke W)) (looks : List (Look W)) : Prop where
  shows : ∀ e : Easel W, e.shows strokes = looks.map fun k => ⟨k, e.pen.place⟩
  place : ∀ e : Easel W, (strokes.foldl Easel.after e).pen.place = e.pen.place

namespace Depicts

variable {first second : List (Stroke W)} {firstLooks secondLooks : List (Look W)}

theorem nil : Depicts ([] : List (Stroke W)) [] :=
  ⟨fun _ => rfl, fun _ => rfl⟩

theorem append (one : Depicts first firstLooks) (two : Depicts second secondLooks) :
    Depicts (first ++ second) (firstLooks ++ secondLooks) where
  shows := by
    intro e
    rw [Easel.shows_append, one.shows, two.shows, one.place, List.map_append]
  place := by
    intro e
    rw [List.foldl_append, two.place, one.place]

theorem flatMap {α : Type} (items : List α) {strokes : α → List (Stroke W)} {looks : α → List (Look W)}
    (each : ∀ a, Depicts (strokes a) (looks a)) :
    Depicts (items.flatMap strokes) (items.flatMap looks) := by
  induction items with
  | nil => exact nil
  | cons a rest ih => exact (each a).append ih

end Depicts

end

/-! ## Links and nodes -/

namespace Layout

variable {W N : Type} [Scalar W] (l : Layout W N) (c : Scene)

/-- What is to be seen of a link: a line, and what flows along it if it is highlighted. -/
def linkLooks (s : Line W) : List (Look W) :=
  let highlighted := c.interaction.highlightsLink s.link.edge
  .outlined (.line s.start s.finish) (c.theme.linkColour highlighted) (linkWidth highlighted / l.camera.zoom) ::
    if highlighted then
      (l.flowPoints s.start s.finish).map fun p =>
        .filled (.disc p (flowWidth true / nat 2)) (c.theme.linkColour true)
    else []

/-- The size of a node's label. -/
def labelFit (measure : Measure W) (n : Node) : LabelFit W :=
  fitLabel (measure n.id) (c.interaction.paintedRadius n)

/-- What is to be seen of a node: a disc, its outline and its label. -/
def nodeLooks (measure : Measure W) (n : PaintedNode W) : List (Look W) :=
  let disc := Shape.disc n.centre (c.interaction.paintedRadius n.node)
  let fit := labelFit c measure n.node
  [.filled disc (c.interaction.nodeFill n.node c.theme), .outlined disc nodeStroke nodeStrokeWidth,
    .text n.node.id ⟨n.centre.x - fit.width / nat 2, n.centre.y + nat fit.size / nat 2⟩ (fontOf fit.size)
      labelColour]

/-- Discs of one colour, which is set once for all of them. -/
theorem depicts_discs (colour : String) (radius : W) (points : List (Point W)) :
    Depicts (.fillStyle colour :: points.flatMap fun p => [.beginPath, circle p radius, .fill])
      (points.map fun p => .filled (.disc p radius) colour) := by
  have discs (e : Easel W) (coloured : e.ink.fill = colour) :
      e.shows (points.flatMap fun p => [.beginPath, circle p radius, .fill]) =
          points.map (fun p => ⟨.filled (.disc p radius) colour, e.pen.place⟩) ∧
        ((points.flatMap fun p => [.beginPath, circle p radius, .fill]).foldl Easel.after e).pen.place =
          e.pen.place := by
    induction points generalizing e with
    | nil => exact ⟨rfl, rfl⟩
    | cons p rest ih =>
      obtain ⟨shows, place⟩ := ih (((e.after .beginPath).after (circle p radius)).after .fill) coloured
      rw [List.flatMap_cons, Easel.shows_append, List.map_cons, List.foldl_append]
      refine ⟨?_, place⟩
      rw [← coloured]
      exact congrArg (_ :: ·) (coloured ▸ shows)
  constructor
  · intro e
    rw [List.map_map]
    exact (discs (e.after (.fillStyle colour)) rfl).1
  · intro e
    exact (discs (e.after (.fillStyle colour)) rfl).2

theorem depicts_link (s : Line W) :
    Depicts (l.paintLink c.theme (c.interaction.highlightsLink s.link.edge) s.start s.finish)
      (l.linkLooks c s) := by
  have line (colour : String) (width : W) : Depicts
      [.strokeStyle colour, .lineWidth width, .beginPath, .moveTo s.start.x s.start.y,
        .lineTo s.finish.x s.finish.y, .stroke]
      [.outlined (.line s.start s.finish) colour width] :=
    ⟨fun _ => rfl, fun _ => rfl⟩
  unfold paintLink linkLooks
  cases c.interaction.highlightsLink s.link.edge with
  | false => exact (line _ _).append .nil
  | true => exact (line _ _).append (depicts_discs _ _ _)

/-- A text that is measured is not seen. -/
theorem depicts_measured (text : String) (sizes : List Nat) :
    Depicts (sizes.flatMap fun size => [.font (fontOf size), .measureText text]) ([] : List (Look W)) := by
  have each (size : Nat) : Depicts [.font (fontOf size), .measureText text] ([] : List (Look W)) :=
    ⟨fun _ => rfl, fun _ => rfl⟩
  have all := Depicts.flatMap sizes each
  rwa [List.flatMap_eq_nil_iff.2 fun _ _ => rfl] at all

theorem depicts_node (measure : Measure W) (n : PaintedNode W) :
    Depicts (paintNode measure c n.node n.centre) (nodeLooks c measure n) := by
  let radius : W := c.interaction.paintedRadius n.node
  let fit := labelFit c measure n.node
  have disc (fill : String) : Depicts
      [.beginPath, circle n.centre radius, .fillStyle fill, .fill, .lineWidth nodeStrokeWidth,
        .strokeStyle nodeStroke, .stroke]
      [.filled (.disc n.centre radius) fill, .outlined (.disc n.centre radius) nodeStroke nodeStrokeWidth] :=
    ⟨fun _ => rfl, fun _ => rfl⟩
  have label (p : Point W) : Depicts
      [.font (fontOf fit.size), .fillStyle labelColour, .fillText n.node.id p.x p.y]
      [.text n.node.id p (fontOf fit.size) labelColour] :=
    ⟨fun _ => rfl, fun _ => rfl⟩
  exact (disc _).append ((depicts_measured n.node.id fit.asked).append (label ⟨_, _⟩))

/-! ## Frames -/

variable [Narrowing W N]

/-- The strokes of a frame: the background, the links that are painted and the nodes that are painted. -/
theorem paint_eq (measure : Measure W) : l.paint measure c =
    l.clear c.theme ++
      [.save, .translate l.transform.x l.transform.y, .scale l.transform.scale l.transform.scale] ++
      ((l.paintedLinks c).flatMap (fun s =>
        l.paintLink c.theme (c.interaction.highlightsLink s.link.edge) s.start s.finish) ++
      (l.paintedNodes c).flatMap (fun n => paintNode measure c n.node n.centre)) ++ [.restore] := by
  have links : l.paintLinks c = (l.paintedLinks c).flatMap fun s =>
      l.paintLink c.theme (c.interaction.highlightsLink s.link.edge) s.start s.finish := by
    rw [paintedLinks, List.filterMap_eq_flatMap_toList, List.flatMap_assoc]
    unfold paintLinks
    congr 1
    funext e
    cases l.linkEnds? c e <;> simp
  have nodes : paintNodes measure l c =
      (l.paintedNodes c).flatMap fun n => paintNode measure c n.node n.centre := by
    rw [paintNodes, shownNodes_eq, List.flatMap_map]
  rw [paint, links, nodes, ← List.append_assoc]

/-- What is seen of a frame: the background, and then links and nodes, all moved and scaled alike. -/
theorem looks_paint (measure : Measure W) (ink : Ink W) :
    (Easel.blank ink).shows (l.paint measure c) =
      ⟨.block ⟨zero, zero⟩ l.width l.height c.theme.background, id⟩ ::
        ((l.paintedLinks c).flatMap (l.linkLooks c) ++ (l.paintedNodes c).flatMap (nodeLooks c measure)).map
          fun k => ⟨k, l.toCanvas⟩ := by
  have links := Depicts.flatMap (l.paintedLinks c) (l.depicts_link c)
  have nodes := Depicts.flatMap (l.paintedNodes c) (depicts_node c measure)
  have body := links.append nodes
  rw [paint_eq, Easel.shows_append, Easel.shows_append, body.shows]
  -- what is painted before the canvas is moved is the background, and nothing is once it is moved back
  show [_] ++ _ ++ [] = _
  rw [List.append_nil]
  rfl

end Layout

end GraphViewer

import Mathlib.Data.List.Basic
import GraphViewer.Frame
/-
What a canvas shows of a frame. A canvas builds up a path out of lines and discs, and paints it at the place
that it has been moved and scaled to when it is told to fill or to outline it. Read off the strokes of a
frame in this way, the links that are painted come out as lines between places of the layout and the nodes
as discs around them, all moved and scaled alike.
-/

namespace GraphViewer

open Scalar (nat zero)

/-! ## Canvas -/

/-- What a path is made of. -/
inductive Shape (W : Type) where
  | line (a b : Point W)
  | arc (centre : Point W) (radius start finish : W)

/-- A shape that is painted, and whether it is filled or outlined. -/
structure Mark (W : Type) where
  shape : Shape W
  filled : Bool

/-- Something with the way in which its points come to their places on the canvas. -/
structure Placed (W α : Type) where
  what : α
  place : Point W → Point W

/-- What a canvas keeps from one stroke to the next. -/
structure Pen (W : Type) where
  place : Point W → Point W
  /-- The places to go back to, the latest first. -/
  saved : List (Point W → Point W)
  /-- Where the path goes on, if a line has been begun. -/
  tip : Option (Point W)
  path : List (Placed W (Shape W))

section

variable {W : Type} [Scalar W]

/-- A full circle, as an arc. -/
def Shape.disc (centre : Point W) (radius : W) : Shape W :=
  .arc centre radius zero (nat 2 * Scalar.pi)

namespace Pen

def fresh : Pen W := ⟨id, [], none, []⟩

def after (pen : Pen W) : Stroke W → Pen W
  | .save => { pen with saved := pen.place :: pen.saved }
  | .restore =>
    match pen.saved with
    | [] => pen
    | place :: saved => { pen with place := place, saved := saved }
  | .translate x y => { pen with place := fun p => pen.place ⟨p.x + x, p.y + y⟩ }
  | .scale x y => { pen with place := fun p => pen.place ⟨p.x * x, p.y * y⟩ }
  | .beginPath => { pen with tip := none, path := [] }
  | .moveTo x y => { pen with tip := some ⟨x, y⟩ }
  | .lineTo x y =>
    let lines := pen.tip.toList.map fun a => ⟨.line a ⟨x, y⟩, pen.place⟩
    { pen with tip := some ⟨x, y⟩, path := pen.path ++ lines }
  | .arc x y radius start finish =>
    { pen with tip := none, path := pen.path ++ [⟨.arc ⟨x, y⟩ radius start finish, pen.place⟩] }
  | _ => pen

/-- What one stroke paints. -/
def marks (pen : Pen W) : Stroke W → List (Placed W (Mark W))
  | .fill => pen.path.map fun s => ⟨⟨s.what, true⟩, s.place⟩
  | .stroke => pen.path.map fun s => ⟨⟨s.what, false⟩, s.place⟩
  | _ => []

/-- What some strokes paint, one after the other. -/
def shows (pen : Pen W) : List (Stroke W) → List (Placed W (Mark W))
  | [] => []
  | s :: rest => pen.marks s ++ (pen.after s).shows rest

theorem shows_append (pen : Pen W) (first second : List (Stroke W)) :
    pen.shows (first ++ second) = pen.shows first ++ (first.foldl after pen).shows second := by
  induction first generalizing pen with
  | nil => rfl
  | cons s rest ih =>
    show pen.marks s ++ (pen.after s).shows (rest ++ second) = _
    rw [ih, ← List.append_assoc]
    rfl

end Pen

/-- Strokes that paint some marks wherever the canvas has been moved to, whatever path is left over from
before, and leave the canvas there. -/
structure Paints (strokes : List (Stroke W)) (marks : List (Mark W)) : Prop where
  shows : ∀ pen : Pen W, pen.shows strokes = marks.map fun m => ⟨m, pen.place⟩
  place : ∀ pen : Pen W, (strokes.foldl Pen.after pen).place = pen.place
  saved : ∀ pen : Pen W, (strokes.foldl Pen.after pen).saved = pen.saved

namespace Paints

variable {first second : List (Stroke W)} {firstMarks secondMarks : List (Mark W)}

theorem nil : Paints ([] : List (Stroke W)) [] :=
  ⟨fun _ => rfl, fun _ => rfl, fun _ => rfl⟩

theorem append (one : Paints first firstMarks) (two : Paints second secondMarks) :
    Paints (first ++ second) (firstMarks ++ secondMarks) where
  shows := by
    intro pen
    rw [Pen.shows_append, one.shows, two.shows, one.place, List.map_append]
  place := by
    intro pen
    rw [List.foldl_append, two.place, one.place]
  saved := by
    intro pen
    rw [List.foldl_append, two.saved, one.saved]

theorem flatMap {α : Type} {items : List α} {strokes : α → List (Stroke W)} {marks : α → List (Mark W)}
    (each : ∀ a, Paints (strokes a) (marks a)) :
    Paints (items.flatMap strokes) (items.flatMap marks) := by
  induction items with
  | nil => exact nil
  | cons a rest ih => exact (each a).append ih

/-- Settings paint nothing. -/
theorem of_settings {settings : List (Stroke W)}
    (still : ∀ s ∈ settings, ∀ pen : Pen W, pen.marks s = [] ∧ pen.after s = pen) :
    Paints settings [] := by
  have unmoved : ∀ pen : Pen W, settings.foldl Pen.after pen = pen ∧ pen.shows settings = [] := by
    intro pen
    induction settings with
    | nil => exact ⟨rfl, rfl⟩
    | cons s rest ih =>
      obtain ⟨nothing, same⟩ := still s List.mem_cons_self pen
      have later := ih fun s among => still s (List.mem_cons_of_mem _ among)
      simp only [List.foldl_cons, Pen.shows, nothing, same, List.nil_append]
      exact later
  exact ⟨fun pen => (unmoved pen).2, fun pen => congrArg Pen.place (unmoved pen).1,
    fun pen => congrArg Pen.saved (unmoved pen).1⟩

end Paints

end

/-! ## Links and nodes -/

/-- A node that is painted, and where. -/
structure PaintedNode (W : Type) where
  index : Nat
  node : Node
  centre : Point W

/-- A link as a line between the places of its ends. -/
structure Line (W : Type) where
  link : LayoutEdge
  start : Point W
  finish : Point W

/-- An edge of the snapshot is shown. -/
def Scene.showsLink (c : Scene) (i : EdgeIndex) : Bool :=
  c.snapshot.edges[i]?.any (c.interaction.showsLink c.snapshot)

namespace Layout

variable {W N : Type} (l : Layout W N) (c : Scene)

section

variable [Narrowing W N]

/-- A particle as a node that is painted, if it is. -/
def paintedNode? (place : Particle N × Nat) : Option (PaintedNode W) :=
  match c.snapshot.nodes[place.2]? with
  | some n => if c.interaction.showsNode n then some ⟨place.2, n, centreOf place.1⟩ else none
  | none => none

/-- The nodes that are painted, in the order in which they are. -/
def paintedNodes : List (PaintedNode W) :=
  l.particles.zipIdx.filterMap (paintedNode? c)

/-- A link as a line, if both its ends have a place. -/
def line? (e : LayoutEdge) : Option (Line W) := do
  let a ← l.position? e.source
  let b ← l.position? e.target
  return ⟨e, a, b⟩

/-- The links whose ends both have a place. -/
def lines : List (Line W) :=
  l.edges.filterMap l.line?

/-- The links that are painted, in the order in which they are. -/
def paintedLinks : List (Line W) :=
  l.edges.filterMap fun e => (l.linkEnds? c e).map fun ends => ⟨e, ends.1, ends.2⟩

theorem shownNodes_eq : l.shownNodes c = (l.paintedNodes c).map fun n => (n.node, n.centre) := by
  rw [shownNodes, paintedNodes, List.map_filterMap]
  congr 1
  funext ⟨p, i⟩
  simp only [paintedNode?]
  cases c.snapshot.nodes[i]? with
  | none => rfl
  | some n =>
    dsimp only
    split <;> rfl

/-- A node is painted at its place if it is shown. -/
theorem mem_paintedNodes {n : PaintedNode W} : n ∈ l.paintedNodes c ↔
    l.position? n.index = some n.centre ∧ c.snapshot.nodes[n.index]? = some n.node ∧
      c.interaction.showsNode n.node = true := by
  obtain ⟨i, node, centre⟩ := n
  simp only [paintedNodes, List.mem_filterMap, Prod.exists, List.mk_mem_zipIdx_iff_getElem?, position?,
    Option.map_eq_some_iff, particles, Array.getElem?_toList]
  constructor
  · rintro ⟨q, j, place, painted⟩
    unfold paintedNode? at painted
    split at painted
    · rename_i present
      split at painted
      · rename_i shown
        cases painted
        exact ⟨⟨q, place, rfl⟩, present, shown⟩
      · cases painted
    · cases painted
  · rintro ⟨⟨q, place, rfl⟩, present, shown⟩
    exact ⟨q, i, place, by simp [paintedNode?, present, shown]⟩

theorem line?_eq_some_iff {e : LayoutEdge} {s : Line W} : l.line? e = some s ↔
    s.link = e ∧ l.position? e.source = some s.start ∧ l.position? e.target = some s.finish := by
  obtain ⟨link, start, finish⟩ := s
  simp only [line?, Option.bind_eq_bind, Option.bind_eq_some_iff, Option.pure_def, Option.some.injEq,
    Line.mk.injEq]
  constructor
  · rintro ⟨a, first, b, last, rfl, rfl, rfl⟩
    exact ⟨rfl, first, last⟩
  · rintro ⟨rfl, first, last⟩
    exact ⟨start, first, finish, last, rfl, rfl, rfl⟩

theorem linkEnds?_eq (e : LayoutEdge) :
    l.linkEnds? c e = if c.showsLink e.edge then (l.line? e).map fun s => (s.start, s.finish) else none := by
  unfold linkEnds? Scene.showsLink line?
  cases c.snapshot.edges[e.edge]? with
  | none => rfl
  | some edge =>
    show (if c.interaction.showsLink c.snapshot edge then _ else none) = _
    congr 1
    cases l.position? e.source <;> cases l.position? e.target <;> rfl

/-- The links that are painted are those whose edges are shown. -/
theorem paintedLinks_eq : l.paintedLinks c = l.lines.filter fun s => c.showsLink s.link.edge := by
  rw [paintedLinks, lines, List.filter_filterMap]
  congr 1
  funext e
  rw [linkEnds?_eq]
  cases line : l.line? e with
  | none => split <;> rfl
  | some s =>
    obtain ⟨rfl, _, _⟩ := l.line?_eq_some_iff.1 line
    rw [Option.filter_some]
    split <;> rfl

/-- A link is painted between the places of its ends if its edge is shown. -/
theorem mem_paintedLinks {s : Line W} : s ∈ l.paintedLinks c ↔
    s.link ∈ l.edges ∧ c.showsLink s.link.edge = true ∧
      l.position? s.link.source = some s.start ∧ l.position? s.link.target = some s.finish := by
  rw [paintedLinks_eq, List.mem_filter, lines, List.mem_filterMap]
  constructor
  · rintro ⟨⟨e, among, line⟩, shown⟩
    obtain ⟨rfl, first, last⟩ := l.line?_eq_some_iff.1 line
    exact ⟨among, shown, first, last⟩
  · rintro ⟨among, shown, first, last⟩
    exact ⟨⟨s.link, among, l.line?_eq_some_iff.2 ⟨rfl, first, last⟩⟩, shown⟩

end

section

variable [Scalar W]

/-- The marks of a node: a disc and its outline. -/
def nodeMarks (n : PaintedNode W) : List (Mark W) :=
  let disc := Shape.disc n.centre (c.interaction.paintedRadius n.node)
  [⟨disc, true⟩, ⟨disc, false⟩]

/-- The marks of what flows along a link. -/
def flowMarks (a b : Point W) : List (Mark W) :=
  (l.flowPoints a b).map fun p => ⟨.disc p (flowWidth true / nat 2), true⟩

/-- The marks of a link: a line, and what flows along it if it is highlighted. -/
def linkMarks (link : Line W) : List (Mark W) :=
  ⟨.line link.start link.finish, false⟩ ::
    if c.interaction.highlightsLink link.link.edge then l.flowMarks link.start link.finish else []

/-- The place on the canvas of a point of the graph. -/
def toCanvas (p : Point W) : Point W :=
  ⟨p.x * l.transform.scale + l.transform.x, p.y * l.transform.scale + l.transform.y⟩

theorem paints_label (measure : Measure W) (text : String) (p : Point W) (radius : W) :
    Paints (paintLabel measure text p radius) [] := by
  refine Paints.of_settings fun s among pen => ?_
  rcases List.mem_append.1 among with asked | written
  · obtain ⟨size, _, one⟩ := List.mem_flatMap.1 asked
    rcases one with _ | ⟨_, _ | ⟨_, ⟨⟩⟩⟩ <;> exact ⟨rfl, rfl⟩
  · rcases written with _ | ⟨_, _ | ⟨_, _ | ⟨_, ⟨⟩⟩⟩⟩ <;> exact ⟨rfl, rfl⟩

theorem paints_node (measure : Measure W) (n : PaintedNode W) :
    Paints (paintNode measure c n.node n.centre) (nodeMarks c n) := by
  have disc : Paints
      [.beginPath, circle n.centre (c.interaction.paintedRadius n.node),
        .fillStyle (c.interaction.nodeFill n.node c.theme), .fill, .lineWidth nodeStrokeWidth,
        .strokeStyle nodeStroke, .stroke]
      (nodeMarks c n) :=
    ⟨fun _ => rfl, fun _ => rfl, fun _ => rfl⟩
  have both := disc.append (paints_label measure n.node.id n.centre (c.interaction.paintedRadius n.node))
  rw [List.append_nil] at both
  exact both

theorem paints_flow (theme : Theme) (a b : Point W) :
    Paints (l.paintFlow theme a b) (l.flowMarks a b) := by
  have colour : Paints [.fillStyle (theme.linkColour true)] ([] : List (Mark W)) :=
    ⟨fun _ => rfl, fun _ => rfl, fun _ => rfl⟩
  have drop (p : Point W) : Paints [.beginPath, circle p (flowWidth true / nat 2), .fill]
      [⟨.disc p (flowWidth true / nat 2), true⟩] :=
    ⟨fun _ => rfl, fun _ => rfl, fun _ => rfl⟩
  rw [flowMarks, List.map_eq_flatMap]
  exact colour.append (Paints.flatMap drop)

theorem paints_link (link : Line W) :
    Paints (l.paintLink c.theme (c.interaction.highlightsLink link.link.edge) link.start link.finish)
      (l.linkMarks c link) := by
  unfold paintLink linkMarks
  have line (width : W) (colour : String) : Paints
      [.strokeStyle colour, .lineWidth width, .beginPath, .moveTo link.start.x link.start.y,
        .lineTo link.finish.x link.finish.y, .stroke]
      [⟨.line link.start link.finish, false⟩] :=
    ⟨fun _ => rfl, fun _ => rfl, fun _ => rfl⟩
  split
  · exact (line _ _).append (l.paints_flow c.theme link.start link.finish)
  · exact (line _ _).append .nil

end

variable [Scalar W] [Narrowing W N]

theorem paints_nodes (measure : Measure W) :
    Paints (paintNodes measure l c) ((l.paintedNodes c).flatMap (nodeMarks c)) := by
  rw [paintNodes, shownNodes_eq, List.flatMap_map]
  exact Paints.flatMap fun n => paints_node c measure n

theorem paints_links : Paints (l.paintLinks c) ((l.paintedLinks c).flatMap (l.linkMarks c)) := by
  rw [paintedLinks, List.filterMap_eq_flatMap_toList, List.flatMap_assoc]
  refine Paints.flatMap fun e => ?_
  cases l.linkEnds? c e with
  | none => exact .nil
  | some ends =>
    have alone := l.paints_link c ⟨e, ends.1, ends.2⟩
    simpa using alone

/-- A frame paints its links and then its nodes, all moved and scaled alike. -/
theorem shows_paint (measure : Measure W) :
    Pen.fresh.shows (l.paint measure c) =
      ((l.paintedLinks c).flatMap (l.linkMarks c) ++ (l.paintedNodes c).flatMap (nodeMarks c)).map
        fun m => ⟨m, l.toCanvas⟩ := by
  have body := (l.paints_links c).append (l.paints_nodes c measure)
  unfold paint
  dsimp only
  rw [List.append_assoc _ (l.paintLinks c), Pen.shows_append, Pen.shows_append, body.shows]
  -- a blank canvas paints nothing while it is cleared and moved, and nothing once it is moved back
  show [] ++ _ ++ [] = _
  rw [List.nil_append, List.append_nil]
  rfl

end Layout

end GraphViewer

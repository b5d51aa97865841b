import Mathlib.Data.List.MinMax
import GraphViewer.Proofs.Exact
import GraphViewer.Proofs.Painted
/-
What the pointer hits is what is painted under it. The search for a node under the pointer goes over the
places of the layout and the search for a link over its edges, each with its own tests for what is shown.
Both come out at what a frame paints: the node is the last one painted whose disc encloses the point of the
graph under the pointer, and the link the nearest one painted.
-/

namespace GraphViewer

/-- The last item that something is picked from decides. -/
theorem foldl_or_eq_getLast? {α β : Type} (pick : α → Option β) (items : List α) :
    items.foldl (fun found a => (pick a).or found) none = (items.filterMap pick).getLast? := by
  induction items using List.reverseRecOn with
  | nil => rfl
  | append_singleton items a ih =>
    rw [List.foldl_append, List.filterMap_append, List.getLast?_append, ← ih, List.foldl_cons,
      List.foldl_nil, List.filterMap_cons]
    cases pick a <;> rfl

/-- The distance of a point from the line of a link. -/
def Line.distance {W : Type} [Scalar W] (s : Line W) (g : Point W) : W :=
  segmentDistance g s.start s.finish

/-- The point lies inside the disc that a node is painted as. -/
def PaintedNode.Encloses (x : Interaction) (n : PaintedNode ℝ) (g : Point ℝ) : Prop :=
  (g.x - n.centre.x) ^ 2 + (g.y - n.centre.y) ^ 2 < x.paintedRadius n.node ^ 2

noncomputable instance (x : Interaction) (n : PaintedNode ℝ) (g : Point ℝ) : Decidable (n.Encloses x g) :=
  Real.decidableLT _ _

theorem Interaction.paintedRadius_nonneg (x : Interaction) (n : Node) : (0 : ℝ) ≤ x.paintedRadius n := by
  unfold Interaction.paintedRadius Node.radius
  split
  · simp only [Scalar.nat_real, Scalar.one_real]
    positivity
  · simp only [Scalar.nat_real, Scalar.zero_real]
    positivity

namespace Layout

section

variable {W N : Type} [Scalar W] [Narrowing W N] (l : Layout W N)

theorem linkDistance?_eq (g : Point W) (e : LayoutEdge) :
    l.linkDistance? g e = (l.line? e).map (·.distance g) := by
  unfold linkDistance? line?
  cases l.position? e.source <;> cases l.position? e.target <;> rfl

/-- The search for a node finds the last one whose disc encloses the point. -/
theorem nodeAt?_eq (p : Point W) (radius : Nat → Option W) :
    l.nodeAt? p radius = (l.particles.zipIdx.filterMap fun place => (radius place.2).bind fun r =>
      if ((centreOf place.1 : Point W).minus (l.toGraph p)).length < r then some place.2
      else none).getLast? := by
  rw [← foldl_or_eq_getLast?, nodeAt?]
  congr 1
  funext found place
  cases size : radius place.2 with
  | none => simp [size]
  | some r =>
    simp only [size, Option.bind_some]
    split <;> rfl

/-- The search for a link goes over the lines of the links that can be hit. -/
theorem linkAt?_eq (p : Point W) (visible : EdgeIndex → Bool) :
    l.linkAt? p visible =
      (nearest? (((l.lines.filter fun s => visible s.link.edge).filter fun s =>
        s.distance (l.toGraph p) ≤ linkReach / l.camera.zoom).map fun s =>
          (s.link.edge, s.distance (l.toGraph p)))).map Prod.fst := by
  have candidates : ((l.edges.filter fun e => visible e.edge).filterMap fun e =>
      (l.linkDistance? (l.toGraph p) e).map (e.edge, ·)) =
        (l.lines.filter fun s => visible s.link.edge).map fun s =>
          (s.link.edge, s.distance (l.toGraph p)) := by
    rw [lines, List.filter_filterMap, List.map_filterMap, List.filterMap_filter]
    congr 1
    funext e
    rw [linkDistance?_eq]
    cases line : l.line? e with
    | none => split <;> rfl
    | some s =>
      obtain ⟨rfl, _, _⟩ := l.line?_eq_some_iff.1 line
      rw [Option.filter_some]
      split <;> rfl
  unfold linkAt?
  dsimp only
  rw [candidates, List.filter_map]
  rfl

end

/-! ## Exact numbers -/

/-- The nearest candidate is the first one at the least distance. -/
theorem nearest?_eq_argmin {α : Type} (edge : α → EdgeIndex) (distance : α → ℝ) (items : List α) :
    nearest? (items.map fun a => (edge a, distance a)) =
      (items.argmin distance).map fun a => (edge a, distance a) := by
  unfold nearest? List.argmin
  rw [List.foldl_map]
  show List.foldl _ (Option.map (fun a => (edge a, distance a)) none) items = _
  refine List.foldl_hom (Option.map fun a => (edge a, distance a)) fun best a => ?_
  cases best with
  | none => rfl
  | some b =>
    show _ = Option.map _ (if distance a < distance b then some a else some b)
    rw [apply_ite (Option.map _)]
    rfl

section

variable {N : Type} (l : Layout ℝ N) (c : Scene) (p : Point ℝ)

theorem toCanvas_eq_iff (zoomed : l.camera.zoom ≠ 0) (q : Point ℝ) : l.toCanvas q = p ↔ q = l.toGraph p := by
  obtain ⟨qx, qy⟩ := q
  obtain ⟨px, py⟩ := p
  have scaled : l.transform.scale ≠ 0 := zoomed
  simp only [toCanvas, toGraph, Point.mk.injEq]
  rw [eq_div_iff scaled, eq_div_iff scaled, eq_sub_iff_add_eq, eq_sub_iff_add_eq]

variable [Narrowing ℝ N]

theorem nodeAt?_eq_painted : l.nodeAt? p (c.interaction.targets c.snapshot).radius =
    ((l.paintedNodes c).filter fun n => n.Encloses c.interaction (l.toGraph p)).getLast?.map
      PaintedNode.index := by
  rw [nodeAt?_eq, ← List.getLast?_map, paintedNodes, List.filter_filterMap, List.map_filterMap]
  congr 2
  funext place
  obtain ⟨q, i⟩ := place
  cases present : c.snapshot.nodes[i]? with
  | none => simp [paintedNode?, Interaction.targets, present]
  | some n =>
    cases shown : c.interaction.showsNode n with
    | false => simp [paintedNode?, Interaction.targets, present, shown]
    | true =>
      have inside : ((centreOf q : Point ℝ).minus (l.toGraph p)).length < c.interaction.paintedRadius n ↔
          (⟨i, n, centreOf q⟩ : PaintedNode ℝ).Encloses c.interaction (l.toGraph p) :=
        Point.length_minus_lt_iff (c.interaction.paintedRadius_nonneg n)
      simp only [paintedNode?, Interaction.targets, present, shown, if_true, Option.bind_some, inside,
        Option.filter_some, decide_eq_true_eq]
      split <;> rfl

theorem linkAt?_eq_painted : l.linkAt? p (c.interaction.targets c.snapshot : Targets ℝ).link =
    (((l.paintedLinks c).filter fun s => s.distance (l.toGraph p) ≤ linkReach / l.camera.zoom).argmin
      (·.distance (l.toGraph p))).map fun s => s.link.edge := by
  rw [linkAt?_eq, nearest?_eq_argmin, Option.map_map, paintedLinks_eq]
  rfl

/-- What the pointer hits at a point of the canvas, against what a frame paints there. -/
structure HitsAsPainted (measure : Measure ℝ) : Prop where
  /-- A frame paints links and then nodes, all of it moved and scaled alike: -/
  painted : Pen.fresh.shows (l.paint measure c) =
    ((l.paintedLinks c).flatMap (l.linkMarks c) ++ (l.paintedNodes c).flatMap (nodeMarks c)).map
      fun m => ⟨m, l.toCanvas⟩
  /-- one point of the graph is painted where the pointer is. -/
  under : ∀ g, l.toCanvas g = p ↔ g = l.toGraph p
  /-- The node hit is the last one painted whose disc encloses that point, -/
  node : l.nodeAt? p (c.interaction.targets c.snapshot).radius =
    ((l.paintedNodes c).filter fun n => n.Encloses c.interaction (l.toGraph p)).getLast?.map
      PaintedNode.index
  /-- and there is none just if no disc that is painted encloses it. -/
  beside : l.nodeAt? p (c.interaction.targets c.snapshot).radius = none ↔
    ∀ n ∈ l.paintedNodes c, ¬ n.Encloses c.interaction (l.toGraph p)
  /-- The link hit is one that is painted, and none that is painted is nearer. -/
  link : ∀ i, l.linkAt? p (c.interaction.targets c.snapshot : Targets ℝ).link = some i →
    ∃ s ∈ l.paintedLinks c, s.link.edge = i ∧ s.distance (l.toGraph p) ≤ linkReach / l.camera.zoom ∧
      ∀ other ∈ l.paintedLinks c, s.distance (l.toGraph p) ≤ other.distance (l.toGraph p)
  /-- There is none just if every link that is painted is out of reach. -/
  apart : l.linkAt? p (c.interaction.targets c.snapshot : Targets ℝ).link = none ↔
    ∀ s ∈ l.paintedLinks c, linkReach / l.camera.zoom < s.distance (l.toGraph p)

/-- The pointer hits what is painted under it, whatever the view, the focus and the types switched on. -/
theorem hits_as_painted (measure : Measure ℝ) (zoomed : l.camera.zoom ≠ 0) : l.HitsAsPainted c p measure where
  painted := l.shows_paint c measure
  under := l.toCanvas_eq_iff p zoomed
  node := l.nodeAt?_eq_painted c p
  beside := by
    rw [nodeAt?_eq_painted, Option.map_eq_none_iff, List.getLast?_eq_none_iff, List.filter_eq_nil_iff]
    simp only [decide_eq_true_eq]
  link := by
    intro i hit
    rw [linkAt?_eq_painted, Option.map_eq_some_iff] at hit
    obtain ⟨s, nearest, rfl⟩ := hit
    obtain ⟨painted, near⟩ := List.mem_filter.1 (List.argmin_mem nearest)
    rw [decide_eq_true_eq] at near
    refine ⟨s, painted, rfl, near, fun other among => ?_⟩
    -- a link that is not within reach is farther off than one that is
    rcases le_or_gt (other.distance (l.toGraph p)) (linkReach / l.camera.zoom) with within | beyond
    · refine List.le_of_mem_argmin (List.mem_filter.2 ⟨among, ?_⟩) nearest
      exact decide_eq_true within
    · exact near.trans beyond.le
  apart := by
    rw [linkAt?_eq_painted, Option.map_eq_none_iff, List.argmin_eq_none, List.filter_eq_nil_iff]
    simp only [decide_eq_true_eq, not_le]

/-- One node in the middle of the canvas. -/
noncomputable def oneInTheMiddle : Layout ℝ ℝ :=
  { Layout.create 800 600 with physics := ⟨#[Particle.atRest "a" 0 0 false], []⟩ }

def oneNodeShown : Scene :=
  ⟨⟨[⟨"a", [], [], 5⟩], [], false⟩, .initial, .light⟩

/-- The pointer is over the node. -/
theorem hits_as_painted_middle : oneInTheMiddle.camera.zoom ≠ 0 ∧
    oneInTheMiddle.HitsAsPainted oneNodeShown ⟨403, 300⟩ (fun _ _ => 0) ∧
    oneInTheMiddle.nodeAt? ⟨403, 300⟩ (oneNodeShown.interaction.targets oneNodeShown.snapshot).radius =
      some 0 := by
  have zoomed : oneInTheMiddle.camera.zoom = 1 := Scalar.one_real
  have hits := oneInTheMiddle.hits_as_painted oneNodeShown ⟨403, 300⟩ (fun _ _ => 0)
    (by rw [zoomed]; exact one_ne_zero)
  have painted : oneInTheMiddle.paintedNodes oneNodeShown = [⟨0, ⟨"a", [], [], 5⟩, ⟨0, 0⟩⟩] := rfl
  have radius : oneNodeShown.interaction.paintedRadius ⟨"a", [], [], 5⟩ = (5 : ℝ) := by
    show ((min 5 24 : ℕ) : ℝ) + (if (none : Option NodeId) = some "a" then _ else Scalar.zero) = 5
    rw [if_neg nofun]
    norm_num
  have under : oneInTheMiddle.toGraph ⟨403, 300⟩ = ⟨3, 0⟩ := by
    simp [toGraph, transform, oneInTheMiddle, create, Camera.initial]
    norm_num
  have inside : (⟨0, ⟨"a", [], [], 5⟩, ⟨0, 0⟩⟩ : PaintedNode ℝ).Encloses oneNodeShown.interaction ⟨3, 0⟩ := by
    unfold PaintedNode.Encloses
    rw [radius]
    norm_num
  refine ⟨by rw [zoomed]; exact one_ne_zero, hits, ?_⟩
  rw [hits.node, painted, under]
  simp [inside]

end

end Layout

end GraphViewer

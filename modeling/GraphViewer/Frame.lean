import GraphViewer.Paint.Style
import GraphViewer.Paint.Label
/-
A frame: the strokes that paint a layout on a canvas. Links come first and nodes after them, each in the
order of the layout, so that nodes cover links and later nodes cover earlier ones.
-/

namespace GraphViewer

open Scalar (nat zero)

/-- A stroke on the canvas, or a setting for the strokes after it. -/
inductive Stroke (W : Type) where
  | fillStyle (colour : String)
  | strokeStyle (colour : String)
  | lineWidth (width : W)
  | font (description : String)
  | fillRect (x y width height : W)
  | save
  | restore
  | translate (x y : W)
  | scale (x y : W)
  | beginPath
  | moveTo (x y : W)
  | lineTo (x y : W)
  | stroke
  | fill
  | arc (x y radius start finish : W)
  | measureText (text : String)
  | fillText (text : String) (x y : W)
  deriving DecidableEq, Repr

/-- What a frame shows besides the layout. -/
structure Scene where
  snapshot : Snapshot
  interaction : Interaction
  theme : Theme

/-- The width of a text at a size, where the canvas can tell. -/
abbrev Measure (W : Type) := String → Nat → W

namespace Layout

variable {W N : Type} [Scalar W] [Scalar N] [Narrowing W N]

/-- Paints the background over everything. -/
def clear (l : Layout W N) (theme : Theme) : List (Stroke W) :=
  [.fillStyle theme.background, .fillRect zero zero l.width l.height]

def circle (p : Point W) (radius : W) : Stroke W :=
  .arc p.x p.y radius zero (nat 2 * Scalar.pi)

/-! ## Links -/

/-- Where the particles of a link are: evenly spaced, and once along the link in a second. -/
def flowPoints (l : Layout W N) (a b : Point W) : List (Point W) :=
  (List.range flowParticles).map fun i =>
    let phase := Scalar.fract (l.flow + nat i / nat flowParticles)
    ⟨a.x + (b.x - a.x) * phase, a.y + (b.y - a.y) * phase⟩

def paintFlow (l : Layout W N) (theme : Theme) (a b : Point W) : List (Stroke W) :=
  .fillStyle (theme.linkColour true) ::
    (l.flowPoints a b).flatMap fun p => [.beginPath, circle p (flowWidth true / nat 2), .fill]

/-- A link between two points. Its width does not depend on the zoom. -/
def paintLink (l : Layout W N) (theme : Theme) (highlighted : Bool) (a b : Point W) : List (Stroke W) :=
  [.strokeStyle (theme.linkColour highlighted), .lineWidth (linkWidth highlighted / l.camera.zoom),
    .beginPath, .moveTo a.x a.y, .lineTo b.x b.y, .stroke] ++
    if highlighted then l.paintFlow theme a b else []

/-- The ends of a link if it is painted. -/
def linkEnds? (l : Layout W N) (c : Scene) (e : LayoutEdge) : Option (Point W × Point W) :=
  match c.snapshot.edges[e.edge]? with
  | none => none
  | some edge =>
    if c.interaction.showsLink c.snapshot edge then
      match l.position? e.source, l.position? e.target with
      | some a, some b => some (a, b)
      | _, _ => none
    else none

def paintLinks (l : Layout W N) (c : Scene) : List (Stroke W) :=
  l.edges.flatMap fun e =>
    match l.linkEnds? c e with
    | some (a, b) => l.paintLink c.theme (c.interaction.highlightsLink e.edge) a b
    | none => []

/-! ## Nodes -/

def fontOf (size : Nat) : String :=
  toString size ++ "px Arial"

/-- A label in the middle of a node, at the size that fits. -/
def paintLabel (measure : Measure W) (text : String) (p : Point W) (radius : W) : List (Stroke W) :=
  let fit := fitLabel (measure text) radius
  (fit.asked.flatMap fun size => [.font (fontOf size), .measureText text]) ++
    [.font (fontOf fit.size), .fillStyle labelColour,
      .fillText text (p.x - fit.width / nat 2) (p.y + nat fit.size / nat 2)]

def paintNode (measure : Measure W) (c : Scene) (n : Node) (p : Point W) : List (Stroke W) :=
  let radius := c.interaction.paintedRadius n
  [.beginPath, circle p radius, .fillStyle (c.interaction.nodeFill n c.theme), .fill,
    .lineWidth nodeStrokeWidth, .strokeStyle nodeStroke, .stroke] ++
    paintLabel measure n.id p radius

/-- The nodes that are painted and their places, in the order in which they are. -/
def shownNodes (l : Layout W N) (c : Scene) : List (Node × Point W) :=
  l.particles.zipIdx.filterMap fun (p, i) =>
    match c.snapshot.nodes[i]? with
    | some n => if c.interaction.showsNode n then some (n, centreOf p) else none
    | none => none

def paintNodes (measure : Measure W) (l : Layout W N) (c : Scene) : List (Stroke W) :=
  (l.shownNodes c).flatMap fun (n, p) => paintNode measure c n p

/-- The whole frame. -/
def paint (measure : Measure W) (l : Layout W N) (c : Scene) : List (Stroke W) :=
  let t := l.transform
  l.clear c.theme ++ [.save, .translate t.x t.y, .scale t.scale t.scale] ++
    l.paintLinks c ++ l.paintNodes measure c ++ [.restore]

end Layout

end GraphViewer

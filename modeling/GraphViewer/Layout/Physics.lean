import GraphViewer.Geometry.Scalar
import GraphViewer.Graph.Snapshot
/-
The forces that spread a graph out. Linked particles pull each other together and all particles push each
other apart; a pinned particle stays where it is. Particles are taken in order, and each one has moved
before the next is looked at.
-/

namespace GraphViewer

open Scalar (nat zero one isZero confine)

/-- A node of the layout: position, velocity and the acceleration gathered since it last moved. -/
structure Particle (α : Type) where
  id : NodeId
  x : α
  y : α
  pinned : Bool
  vx : α
  vy : α
  ax : α
  ay : α
  deriving DecidableEq, Repr

/-- Particles by index, and the links between them, the newest first. -/
structure Physics (α : Type) where
  particles : Array (Particle α)
  links : List (Nat × Nat)
  deriving Repr

variable {α : Type} [Scalar α]

namespace Particle

def atRest (id : NodeId) (x y : α) (pinned : Bool) : Particle α :=
  ⟨id, x, y, pinned, zero, zero, zero, zero⟩

/-- No force counts for more than this along either axis. -/
def forceLimit : α := nat 100

/-- Takes up a force for a time. -/
def push (p : Particle α) (dt fx fy : α) : Particle α :=
  { p with
    ax := p.ax + confine (-forceLimit) forceLimit fx * dt
    ay := p.ay + confine (-forceLimit) forceLimit fy * dt }

/-- The velocity after an acceleration has worked on it, with some of it lost to friction. -/
def velocity (v a dt : α) : α :=
  (v + a * dt * nat 3000) * (nat 9 / nat 10)

/-- Moves for a time, unless pinned. -/
def move (p : Particle α) (dt : α) : Particle α :=
  if p.pinned then p
  else
    let vx := velocity p.vx p.ax dt
    let vy := velocity p.vy p.ay dt
    { p with x := p.x + vx * dt, y := p.y + vy * dt, vx := vx, vy := vy, ax := zero, ay := zero }

/-- The direction from one particle to another, of length one, and the distance. Particles at the same
place count as one apart, in no direction. -/
def toward (p q : Particle α) : α × α × α :=
  let dx := q.x - p.x
  let dy := q.y - p.y
  let d := if isZero dx && isZero dy then one else Scalar.sqrt (dx * dx + dy * dy)
  (dx / d, dy / d, d)

/-- The pull of a link from one end to the other, which grows with the distance. -/
def pull (p q : Particle α) : α × α :=
  let (dx, dy, d) := p.toward q
  let s := nat 5 / nat 100 * d * (nat 1 / nat 2)
  (dx * s, dy * s)

/-- The push of one particle away from another, which falls with the square of the distance. -/
def repulsion (p q : Particle α) : α × α :=
  let (dx, dy, d) := p.toward q
  let s := -nat 150 * (nat 100 / (d * d))
  (dx * s, dy * s)

end Particle

namespace Physics

def empty : Physics α := ⟨#[], []⟩

/-- A link between two particles is made once, whichever way it is asked for. -/
def addLink (links : List (Nat × Nat)) (source target : Nat) : List (Nat × Nat) :=
  if links.contains (source, target) || links.contains (target, source) then links
  else (source, target) :: links

/-- The particles linked to one: first those that its own links lead to, then those whose links lead to
it. -/
def neighbours (s : Physics α) (i : Nat) : List Nat :=
  ((s.links.filter fun l => l.1 == i).map Prod.snd) ++
    (s.links.filter fun l => l.2 == i && l.1 != i).map Prod.fst

/-- Pulls `i` towards `j`. -/
def spring (dt : α) (i : Nat) (s : Physics α) (j : Nat) : Physics α :=
  match s.particles[i]?, s.particles[j]? with
  | some p, some q =>
    let (fx, fy) := p.pull q
    { s with particles := s.particles.modify i (·.push dt fx fy) }
  | _, _ => s

/-- Pushes `i` and `j` apart, so far as they are not pinned. -/
def repel (dt : α) (i : Nat) (s : Physics α) (j : Nat) : Physics α :=
  match s.particles[i]?, s.particles[j]? with
  | some p, some q =>
    let (fx, fy) := p.repulsion q
    let moved := if p.pinned then s.particles else s.particles.modify i (·.push dt fx fy)
    let moved := if q.pinned then moved else moved.modify j (·.push dt (-fx) (-fy))
    { s with particles := moved }
  | _, _ => s

/-- All forces on `i` that are worked out at its turn, and its move. -/
def advance (dt : α) (s : Physics α) (i : Nat) : Physics α :=
  let s := (s.neighbours i).foldl (spring dt i) s
  let later := (List.range s.particles.size).drop (i + 1)
  let s := later.foldl (repel dt i) s
  { s with particles := s.particles.modify i (·.move dt) }

/-- A particle linked to itself cannot be moved. -/
def hasLoop (s : Physics α) : Bool :=
  s.links.any fun l => l.1 == l.2

/-- The particles after some time; nothing if one of them is linked to itself. -/
def update? (s : Physics α) (dt : α) : Option (Physics α) :=
  if s.hasLoop then none
  else some ((List.range s.particles.size).foldl (advance dt) s)

end Physics

end GraphViewer

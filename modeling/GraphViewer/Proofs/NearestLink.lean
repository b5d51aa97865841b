import GraphViewer.Proofs.Hits
import GraphViewer.Proofs.LinkEnds
import GraphViewer.Proofs.NearestPoint
import GraphViewer.Proofs.Pins
import GraphViewer.Proofs.ZoomLimits
/-
The link under the pointer. Of the links that count and come within reach of the pointer on the canvas it is a
nearest one, the first of those in the layout, and there is none just if no link that counts comes within reach. In
every layout that a new one can become, each link has its place, and belongs to an edge of the last snapshot that
has both its ends there.
-/

namespace GraphViewer

/-- The least item stands behind greater ones only, and before none that is less. -/
theorem exists_split_of_argmin {α : Type} {f : α → ℝ} {items : List α} {m : α} (least : items.argmin f = some m) :
    ∃ before after, items = before ++ m :: after ∧ (∀ a ∈ before, f m < f a) ∧ ∀ a ∈ after, f m ≤ f a := by
  induction items using List.reverseRecOn generalizing m with
  | nil => cases least
  | append_singleton items last ih =>
    rw [List.argmin_concat] at least
    cases earlier : items.argmin f with
    | none =>
      obtain rfl := List.argmin_eq_none.1 earlier
      cases least
      exact ⟨[], [], rfl, nofun, nofun⟩
    | some c =>
      rw [earlier] at least
      dsimp only at least
      split at least
      · rename_i less
        cases least
        exact ⟨items, [], rfl, fun a among => less.trans_le (List.le_of_mem_argmin among earlier), nofun⟩
      · rename_i notLess
        cases least
        obtain ⟨before, after, rfl, greater, notLess'⟩ := ih earlier
        refine ⟨before, after ++ [last], by simp, greater, fun a among => ?_⟩
        rcases List.mem_append.1 among with among | among
        · exact notLess' a among
        · rw [List.mem_singleton.1 among]
          exact not_lt.1 notLess

namespace Layout

/-! ## The last snapshot -/

section

variable {W N : Type} [Scalar W] [Scalar N] [Narrowing W N] {l next : Layout W N} {c : Change W N} {s : Snapshot}

def Change.loads? : Change W N → Option Snapshot
  | .load s => some s
  | _ => none

/-- The snapshot that was laid out last; before any, it is the empty one. -/
def lastLoaded (changes : List (Change W N)) : Snapshot :=
  (changes.filterMap Change.loads?).getLast?.getD Snapshot.empty

omit [Scalar W] [Scalar N] [Narrowing W N] in
theorem lastLoaded_concat (changes : List (Change W N)) (c : Change W N) :
    lastLoaded (changes ++ [c]) = c.loads?.getD (lastLoaded changes) := by
  cases loads : c.loads? <;> simp [lastLoaded, loads]

/-- Only a snapshot changes which links there are. -/
theorem edges_undergo (unloaded : c.loads? = none) (step : l.undergo? c = some next) : next.edges = l.edges := by
  cases c with
  | load s => cases unloaded
  | tick dt => exact edges_tick step
  | down p t =>
    cases step
    exact l.edges_pointerDown p t
  | move p t =>
    cases step
    exact l.edges_pointerMove p t
  | up =>
    cases step
    rfl
  | leave =>
    cases step
    rfl
  | wheel p turn =>
    cases step
    rfl
  | obey order =>
    cases step
    rfl
  | resize width height =>
    cases step
    rfl

theorem EndsLast.undergo (ends : EndsLast s l) (step : l.undergo? c = some next) :
    EndsLast (c.loads?.getD s) next := by
  rcases ids_undergo step with ⟨s', rfl, _⟩ | ⟨unloaded, same⟩
  · cases step
    exact l.endsLast_load s'
  · have none : c.loads? = none := by
      cases c with
      | load s' => exact absurd rfl (unloaded s')
      | _ => rfl
    rw [none]
    exact ends.of_same same (edges_undergo none step)

/-- Whatever has happened to a new layout, it is one of the last snapshot. -/
theorem endsLast_after {width height : W} {changes : List (Change W N)}
    (run : (create width height).after? changes = some l) : EndsLast (lastLoaded changes) l := by
  induction changes using List.reverseRecOn generalizing l with
  | nil =>
    cases run
    exact ⟨rfl, nofun⟩
  | append_singleton changes c ih =>
    obtain ⟨before, reached, step⟩ := after?_concat_iff.1 run
    rw [lastLoaded_concat]
    exact (ih reached).undergo step

omit [Scalar W] [Scalar N] [Narrowing W N] in
theorem EndsLast.isResolved (ends : EndsLast s l) {e : LayoutEdge} (among : e ∈ l.edges) :
    ∃ edge, s.edges[e.edge]? = some edge ∧ s.isResolved edge = true := by
  obtain ⟨edge, present, source, target⟩ := ends.ends e among
  have contains {id : NodeId} {i : Nat} (last : LastAt s.ids id i) : s.contains id = true :=
    (s.contains_iff id).2 (List.mem_map.1 (List.mem_of_getElem? last.1))
  exact ⟨edge, present, Bool.and_eq_true_iff.2 ⟨contains source, contains target⟩⟩

omit [Scalar W] [Scalar N] in
theorem EndsLast.line (ends : EndsLast s l) {e : LayoutEdge} (among : e ∈ l.edges) :
    ∃ a b, l.line? e = some ⟨e, a, b⟩ := by
  obtain ⟨edge, _, source, target⟩ := ends.ends e among
  have placed {id : NodeId} {i : Nat} (last : LastAt s.ids id i) : ∃ a : Point W, l.position? i = some a := by
    have here := last.1
    rw [← ends.ids, Layout.ids, Physics.getElem?_ids] at here
    obtain ⟨q, there, _⟩ := Option.map_eq_some_iff.1 here
    exact ⟨_, Option.map_eq_some_iff.2 ⟨q, there, rfl⟩⟩
  obtain ⟨a, start⟩ := placed source
  obtain ⟨b, finish⟩ := placed target
  exact ⟨a, b, l.line?_eq_some_iff.2 ⟨rfl, start, finish⟩⟩

end

/-! ## Exact numbers -/

variable {N : Type} [Narrowing ℝ N] {l : Layout ℝ N} {p : Point ℝ} {visible : EdgeIndex → Bool}
  {e : LayoutEdge} {d : ℝ}

/-- A link has a place, and on the canvas a point is so far from it: the least distance in the graph from any point
of the segment between its ends, times the zoom. -/
def OffBy (l : Layout ℝ N) (p : Point ℝ) (e : LayoutEdge) (d : ℝ) : Prop :=
  ∃ a b r, l.position? e.source = some a ∧ l.position? e.target = some b ∧
    IsLeast (distances (l.toGraph p) a b) r ∧ d = r * l.camera.zoom

theorem offBy_iff : l.OffBy p e d ↔
    ∃ s, l.line? e = some s ∧ d = s.distance (l.toGraph p) * l.camera.zoom := by
  constructor
  · rintro ⟨a, b, r, start, finish, least, rfl⟩
    refine ⟨⟨e, a, b⟩, l.line?_eq_some_iff.2 ⟨rfl, start, finish⟩, ?_⟩
    rw [least.unique (isLeast_segmentDistance _ a b)]
    rfl
  · rintro ⟨⟨link, a, b⟩, line, rfl⟩
    obtain ⟨rfl, start, finish⟩ := l.line?_eq_some_iff.1 line
    exact ⟨a, b, _, start, finish, isLeast_segmentDistance _ a b, rfl⟩

theorem OffBy.unique {d' : ℝ} (off : l.OffBy p e d) (off' : l.OffBy p e d') : d = d' := by
  obtain ⟨s, line, rfl⟩ := offBy_iff.1 off
  obtain ⟨s', line', rfl⟩ := offBy_iff.1 off'
  cases line.symm.trans line'
  rfl

/-- The line of a link that counts, if it comes within reach. -/
noncomputable def inReach? (l : Layout ℝ N) (p : Point ℝ) (visible : EdgeIndex → Bool) (e : LayoutEdge) :
    Option (Line ℝ) :=
  (l.line? e).filter fun s =>
    visible s.link.edge && decide (s.distance (l.toGraph p) ≤ linkReach / l.camera.zoom)

theorem linkAt?_eq_argmin (l : Layout ℝ N) (p : Point ℝ) (visible : EdgeIndex → Bool) : l.linkAt? p visible =
    ((l.edges.filterMap (l.inReach? p visible)).argmin (·.distance (l.toGraph p))).map fun s => s.link.edge := by
  have inReach : (l.lines.filter fun s => visible s.link.edge).filter
      (fun s => s.distance (l.toGraph p) ≤ linkReach / l.camera.zoom) =
        l.edges.filterMap (l.inReach? p visible) := by
    rw [List.filter_filter, lines, List.filter_filterMap]
    simp only [Bool.and_comm]
    rfl
  rw [linkAt?_eq, inReach, nearest?_eq_argmin, Option.map_map]
  rfl

/-- With a zoom, reach in the graph is reach on the canvas. -/
theorem inReach?_eq_some_iff (zoomed : 0 < l.camera.zoom) {s : Line ℝ} : l.inReach? p visible e = some s ↔
    l.line? e = some s ∧ visible e.edge = true ∧ s.distance (l.toGraph p) * l.camera.zoom ≤ linkReach := by
  rw [inReach?, Option.filter_eq_some_iff, Bool.and_eq_true, decide_eq_true_eq, le_div_iff₀ zoomed]
  refine and_congr_right fun line => ?_
  rw [(l.line?_eq_some_iff.1 line).1]

/-- A link that counts is within reach, or farther off. -/
theorem OffBy.near_or_beyond (off : l.OffBy p e d) (zoomed : 0 < l.camera.zoom) (counts : visible e.edge = true) :
    (∃ s, l.inReach? p visible e = some s ∧ d = s.distance (l.toGraph p) * l.camera.zoom) ∨ linkReach < d := by
  obtain ⟨s, line, rfl⟩ := offBy_iff.1 off
  rcases le_or_gt (s.distance (l.toGraph p) * l.camera.zoom) linkReach with near | beyond
  · exact .inl ⟨s, (inReach?_eq_some_iff zoomed).2 ⟨line, counts, near⟩, rfl⟩
  · exact .inr beyond

theorem linkAt?_eq_none_iff (zoomed : 0 < l.camera.zoom) : l.linkAt? p visible = none ↔
    ∀ e ∈ l.edges, visible e.edge = true → ∀ d, l.OffBy p e d → linkReach < d := by
  rw [linkAt?_eq_argmin, Option.map_eq_none_iff, List.argmin_eq_none, List.filterMap_eq_nil_iff]
  refine forall₂_congr fun e _ => ?_
  constructor
  · intro none counts d off
    refine (off.near_or_beyond zoomed counts).resolve_left ?_
    rintro ⟨s, reached, _⟩
    cases none.symm.trans reached
  · intro beyond
    refine Option.eq_none_iff_forall_ne_some.2 fun s reached => ?_
    obtain ⟨line, counts, near⟩ := (inReach?_eq_some_iff zoomed).1 reached
    exact absurd near (not_le.2 (beyond counts _ (offBy_iff.2 ⟨s, line, rfl⟩)))

/-- Of the links that count, one is a nearest one and within reach. It stands in the layout behind some others and
before the rest, and none of those that it stands behind is as near. -/
structure Nearest (l : Layout ℝ N) (p : Point ℝ) (visible : EdgeIndex → Bool) (before : List LayoutEdge)
    (e : LayoutEdge) (after : List LayoutEdge) (d : ℝ) : Prop where
  edges : l.edges = before ++ e :: after
  counts : visible e.edge = true
  off : l.OffBy p e d
  near : d ≤ linkReach
  before : ∀ other ∈ before, visible other.edge = true → ∀ d', l.OffBy p other d' → d < d'
  after : ∀ other ∈ after, visible other.edge = true → ∀ d', l.OffBy p other d' → d ≤ d'

theorem nearest_of_linkAt? (zoomed : 0 < l.camera.zoom) {i : EdgeIndex} (hit : l.linkAt? p visible = some i) :
    ∃ before e after d, e.edge = i ∧ l.Nearest p visible before e after d := by
  rw [linkAt?_eq_argmin, Option.map_eq_some_iff] at hit
  obtain ⟨s, least, rfl⟩ := hit
  -- the links before and after it, from those of them that are within reach
  obtain ⟨earlier, later, split, greater, notLess⟩ := exists_split_of_argmin least
  obtain ⟨before, rest, edges, rfl, behind⟩ := List.filterMap_eq_append_iff.1 split
  obtain ⟨skipped, e, after, rfl, unreached, found, rfl⟩ := List.filterMap_eq_cons_iff.1 behind
  obtain ⟨line, counts, near⟩ := (inReach?_eq_some_iff zoomed).1 found
  obtain rfl := (l.line?_eq_some_iff.1 line).1
  refine ⟨before ++ skipped, s.link, after, _, rfl, ?_, counts, offBy_iff.2 ⟨s, line, rfl⟩, near, ?_, ?_⟩
  · rw [edges, List.append_assoc]
  · intro other among counts' d' off
    rcases off.near_or_beyond zoomed counts' with ⟨s', reached, rfl⟩ | beyond
    · rcases List.mem_append.1 among with among | among
      · exact mul_lt_mul_of_pos_right (greater s' (List.mem_filterMap.2 ⟨other, among, reached⟩)) zoomed
      · cases (unreached other among).symm.trans reached
    · exact near.trans_lt beyond
  · intro other among counts' d' off
    rcases off.near_or_beyond zoomed counts' with ⟨s', reached, rfl⟩ | beyond
    · exact mul_le_mul_of_nonneg_right (notLess s' (List.mem_filterMap.2 ⟨other, among, reached⟩)) zoomed.le
    · exact near.trans beyond.le

variable [Scalar N]

/-- Which link the pointer hits at a point of the canvas, of those that count. -/
structure HitsNearest (l : Layout ℝ N) (p : Point ℝ) (visible : EdgeIndex → Bool) : Prop where
  /-- None is hit just if none that counts is within reach, -/
  missed : l.linkAt? p visible = none ↔
    ∀ e ∈ l.edges, visible e.edge = true → ∀ d, l.OffBy p e d → linkReach < d
  /-- and one that is hit is the first nearest one. -/
  hit : ∀ {i}, l.linkAt? p visible = some i → ∃ before e after d, e.edge = i ∧ l.Nearest p visible before e after d
  /-- Every link has its place, whatever has happened to a new layout, -/
  placed : ∀ {width height changes}, (create width height).after? changes = some l →
    ∀ e ∈ l.edges, ∃ d, l.OffBy p e d
  /-- and the one that is hit is an edge of the last snapshot that has both its ends there. -/
  resolved : ∀ {width height changes}, (create width height).after? changes = some l →
    ∀ {i}, l.linkAt? p visible = some i →
      ∃ edge, (lastLoaded changes).edges[i]? = some edge ∧ (lastLoaded changes).isResolved edge = true

/-- The pointer hits the nearest link, whatever the layout and whichever links count. -/
theorem nearest_hit (l : Layout ℝ N) (zoomed : 0 < l.camera.zoom) (p : Point ℝ) (visible : EdgeIndex → Bool) :
    l.HitsNearest p visible where
  missed := linkAt?_eq_none_iff zoomed
  hit := nearest_of_linkAt? zoomed
  placed run e among := by
    obtain ⟨a, b, line⟩ := (endsLast_after run).line among
    exact ⟨_, offBy_iff.2 ⟨_, line, rfl⟩⟩
  resolved run i hit := by
    obtain ⟨before, e, after, d, rfl, nearest⟩ := nearest_of_linkAt? zoomed hit
    refine (endsLast_after run).isResolved ?_
    rw [nearest.edges]
    exact List.mem_append_right before List.mem_cons_self

/-! ## A closed layout -/

/-- Two nodes with a link each way, and one that leads nowhere. -/
def linkedTwice : Snapshot :=
  ⟨[⟨"a", [], [], 7⟩, ⟨"b", [], [], 7⟩],
    [⟨none, none, "a", "x"⟩, ⟨none, none, "a", "b"⟩, ⟨none, none, "b", "a"⟩], false⟩

noncomputable def bothWays : Layout ℝ ℝ :=
  (create (Scalar.nat 800) (Scalar.nat 600)).load linkedTwice

theorem particles_bothWays :
    bothWays.physics.particles = #[Particle.atRest "a" 100 0 false, Particle.atRest "b" (-100) 0 false] := by
  simp [bothWays, load, linkedTwice, settle, particleIn?, particles, create, Physics.empty, seed, seedRadius,
    Scalar.cos, Scalar.sin, Scalar.pi]
  exact ⟨rfl, rfl⟩

/-- From above the middle of a level segment. -/
theorem isLeast_above (x : ℝ) : IsLeast (distances ⟨0, 2⟩ ⟨x, 0⟩ ⟨-x, 0⟩) 2 := by
  constructor
  · refine ⟨1 / 2, by norm_num, ?_⟩
    rw [length_minus, eq_comm, Real.sqrt_eq_iff_mul_self_eq (by positivity) (by norm_num)]
    simp only [pointAlong]
    ring
  · rintro d ⟨t, _, rfl⟩
    rw [length_minus]
    refine Real.le_sqrt_of_sq_le ?_
    simp only [pointAlong]
    nlinarith [sq_nonneg (0 - (x + t * (-x - x)))]

/-- The pointer is as near to one link as to the other, and hits the first. -/
theorem nearest_hit_first : 0 < bothWays.camera.zoom ∧
    bothWays.HitsNearest ⟨400, 302⟩ (fun _ => true) ∧ bothWays.linkAt? ⟨400, 302⟩ (fun _ => true) = some 1 := by
  have zoomed : 0 < bothWays.camera.zoom := by
    show (0 : ℝ) < Scalar.one
    rw [Scalar.one_real]
    exact one_pos
  have nearest := bothWays.nearest_hit zoomed ⟨400, 302⟩ fun _ => true
  have edges : bothWays.edges = [⟨0, 1, 1⟩, ⟨1, 0, 2⟩] := rfl
  have middle : bothWays.toGraph ⟨400, 302⟩ = ⟨0, 2⟩ := by
    simp [toGraph, transform, bothWays, load, create, Camera.initial]
    norm_num
  have off : bothWays.OffBy ⟨400, 302⟩ ⟨0, 1, 1⟩ 2 ∧ bothWays.OffBy ⟨400, 302⟩ ⟨1, 0, 2⟩ 2 := by
    have zoom : bothWays.camera.zoom = 1 := Scalar.one_real
    have start : bothWays.position? 0 = some ⟨100, 0⟩ := by
      rw [position?, particles_bothWays]
      rfl
    have finish : bothWays.position? 1 = some ⟨-100, 0⟩ := by
      rw [position?, particles_bothWays]
      rfl
    have back := isLeast_above (-100)
    rw [neg_neg] at back
    exact ⟨⟨_, _, 2, start, finish, middle ▸ isLeast_above 100, by rw [zoom, mul_one]⟩,
      ⟨_, _, 2, finish, start, middle ▸ back, by rw [zoom, mul_one]⟩⟩
  refine ⟨zoomed, nearest, ?_⟩
  cases hit : bothWays.linkAt? ⟨400, 302⟩ fun _ => true with
  | none =>
    have beyond := nearest.missed.1 hit ⟨0, 1, 1⟩ (by simp [edges]) rfl 2 off.1
    norm_num [linkReach] at beyond
  | some i =>
    obtain ⟨before, e, after, d, rfl, first⟩ := nearest.hit hit
    have split := edges.symm.trans first.edges
    rcases before with _ | ⟨one, _ | ⟨two, rest⟩⟩
    · cases split
      rfl
    · cases split
      have nearer := first.before ⟨0, 1, 1⟩ List.mem_cons_self rfl 2 off.1
      exact absurd (first.off.unique off.2) nearer.ne
    · simp at split

end Layout

end GraphViewer

import GraphViewer.Proofs.Carried
import GraphViewer.Proofs.LinkEnds
/-
A snapshot laid out over whatever was laid out before. Its nodes come in its order, and its edges are those
that have both ends, in its order too, each between nodes with the ids that it names. A node whose id was there
stands where the last node with that id stood, pinned as that was, and any other one is free. The pointer has
nothing in hand then; what the camera shows, the room and the time that has passed stay as they are.
-/

namespace GraphViewer

/-- The edges with both ends, by their indices. -/
def Snapshot.resolved (s : Snapshot) : List EdgeIndex :=
  (List.range s.edges.length).filter fun i => s.edges[i]?.any s.isResolved

/-- To keep the indices of some items is to keep some indices. -/
theorem filterMap_zipIdx_eq {α : Type} (keeps : α → Bool) (items : List α) :
    (items.zipIdx.filterMap fun (a, i) => if keeps a then some i else none) =
      (List.range items.length).filter fun i => items[i]?.any keeps := by
  induction items using List.reverseRecOn with
  | nil => rfl
  | append_singleton items a ih =>
    have before : ((List.range items.length).filter fun i => (items ++ [a])[i]?.any keeps) =
        (List.range items.length).filter fun i => items[i]?.any keeps := by
      refine List.filter_congr fun i inside => ?_
      rw [List.getElem?_append_left (List.mem_range.1 inside)]
    rw [List.zipIdx_append, List.filterMap_append, ih, List.length_append, List.length_singleton,
      List.range_succ, List.filter_append, before]
    cases kept : keeps a <;> simp [kept]

namespace Layout

variable {W N : Type} [Scalar W] [Narrowing W N] {l : Layout W N} {s : Snapshot}
  {particles : List (Particle N)} {id : NodeId}

/-- The last node with an id, and its place. -/
theorem last_of_particleIn {p : Particle N} (found : particleIn? particles id = some p) :
    ∃ i, particles[i]? = some p ∧ LastAt (particles.map Particle.id) id i := by
  have parted : particles.reverse = particles.zipIdx.reverse.map Prod.fst := by
    rw [List.map_reverse, List.zipIdx_map_fst]
  rw [particleIn?, parted, List.find?_map, Option.map_eq_some_iff] at found
  obtain ⟨⟨q, i⟩, found, rfl⟩ := found
  have present := List.mem_reverse.1 (List.mem_of_find?_eq_some found)
  refine ⟨i, List.mk_mem_zipIdx_iff_getElem?.1 present, last_of_indexIn ?_⟩
  rw [indexIn]
  exact congrArg (Option.map Prod.snd) found

theorem indexIn_isSome (particles : List (Particle N)) (id : NodeId) :
    (indexIn particles id).isSome = true ↔ id ∈ particles.map Particle.id := by
  rw [indexIn, Option.isSome_map, List.find?_isSome, ← List.zipIdx_map_fst 0 particles, List.map_map]
  simp

/-- The edges that are laid out are those with both ends, in their order. -/
theorem edgesIn_edges (named : particles.map Particle.id = s.ids) :
    (edgesIn particles s).map LayoutEdge.edge = s.resolved := by
  have known (id : NodeId) : (indexIn particles id).isSome = s.contains id := by
    rw [Bool.eq_iff_iff, indexIn_isSome, named, s.contains_iff, Snapshot.ids, List.mem_map]
  rw [Snapshot.resolved, ← filterMap_zipIdx_eq, edgesIn, List.map_filterMap]
  refine List.filterMap_congr ?_
  rintro ⟨e, i⟩ _
  dsimp only
  rw [Snapshot.isResolved, ← known, ← known]
  cases indexIn particles e.source <;> cases indexIn particles e.target <;> rfl

variable [Scalar N]

/-- What a snapshot `s` is laid out as over a layout `l`. -/
structure LaidAnew (l : Layout W N) (s : Snapshot) : Prop where
  /-- The node in a slot is the one at that place of the snapshot, and there are no others. -/
  nodes : ∀ slot : Nat, (l.load s).particles[slot]?.map Particle.id = s.nodes[slot]?.map Node.id
  /-- The edges are those with both ends, in the order of the snapshot, -/
  edges : (l.load s).edges.map LayoutEdge.edge = s.resolved
  /-- and each joins nodes with the ids that it names. -/
  ends : ∀ {e}, e ∈ (l.load s).edges → ∃ edge, s.edges[e.edge]? = some edge ∧
    (l.load s).particles[e.source]?.map Particle.id = some edge.source ∧
    (l.load s).particles[e.target]?.map Particle.id = some edge.target
  /-- A node whose id was there is where the last node with that id was, and pinned just if that was; -/
  kept : ∀ {i j : Nat} {n : Node} {p : Particle N}, s.nodes[i]? = some n → LastAt l.ids n.id j →
    l.particles[j]? = some p → (l.load s).places[i]? = some p.place
  /-- any other one is not pinned. -/
  free : ∀ {i : Nat} {n : Node}, s.nodes[i]? = some n → n.id ∉ l.ids →
    ∃ place, (l.load s).places[i]? = some place ∧ place.pinned = false
  /-- No drag and no hover is on, so the end of a press is no click. -/
  drag : (l.load s).drag = none
  pointer : (l.load s).pointer = .nothing
  click : (l.load s).pointerUp.2 = none
  /-- The rest stays as it was. -/
  camera : (l.load s).camera = l.camera
  pan : (l.load s).pan = l.pan
  width : (l.load s).width = l.width
  height : (l.load s).height = l.height
  flow : (l.load s).flow = l.flow

/-- Any snapshot comes out as its nodes and its edges with both ends, over any layout. -/
theorem laid_anew (l : Layout W N) (s : Snapshot) : LaidAnew l s where
  nodes := by
    intro slot
    rw [← List.getElem?_map, ← List.getElem?_map]
    exact congrArg (·[slot]?) (l.ids_load s)
  edges := edgesIn_edges (l.ids_load s)
  ends := by
    intro e among
    obtain ⟨edge, present, source, target⟩ := (endsLast_load l s).ends e among
    rw [← List.getElem?_map, ← List.getElem?_map]
    refine ⟨edge, present, ?_, ?_⟩
    · exact (congrArg (·[e.source]?) (l.ids_load s)).trans source.1
    · exact (congrArg (·[e.target]?) (l.ids_load s)).trans target.1
  kept := by
    intro i j n p present last here
    obtain ⟨place, placed⟩ := mem_ids_iff.1 (List.mem_of_getElem? last.1)
    obtain ⟨q, found, rfl⟩ := Option.map_eq_some_iff.1 placed
    obtain ⟨k, there, last'⟩ := last_of_particleIn found
    obtain rfl : k = j := last'.unique last
    obtain rfl : q = p := Option.some.inj (there.symm.trans here)
    rw [places_load_at present, laidOver_of_placed placed]
  free := by
    intro i n present strange
    refine ⟨start (W := W) s n i, ?_, rfl⟩
    rw [places_load_at present, laidOver_of_unplaced (placeOf?_eq_none_iff.2 strange)]
  drag := rfl
  pointer := rfl
  click := rfl
  camera := rfl
  pan := rfl
  width := rfl
  height := rfl
  flow := rfl

attribute [local instance] Session.instScalarInt Session.instNarrowingInt

/-- Two nodes with one id, of which the last is pinned and under a press. -/
def alike : Layout Int Int :=
  { (create 800 600 : Layout Int Int) with
    physics := ⟨#[.atRest "a" 1 2 false, .atRest "a" 3 4 true], []⟩
    drag := some ⟨1, false, 403, 304, 3, 4⟩
    pointer := .node "a" }

/-- A node with that id and a new one, with two links between them and one that leads nowhere. -/
def renewed : Snapshot :=
  ⟨[⟨"c", [], [], 7⟩, ⟨"a", [], [], 7⟩],
    [⟨none, none, "a", "c"⟩, ⟨none, none, "a", "x"⟩, ⟨none, none, "c", "a"⟩], false⟩

/-- The new node is at its start, and the other one where the last of the two was. -/
theorem laid_anew_alike : LaidAnew alike renewed ∧
    (alike.load renewed).places = [⟨100, 0, false⟩, ⟨3, 4, true⟩] ∧
    (alike.load renewed).edges = [⟨1, 0, 0⟩, ⟨0, 1, 2⟩] :=
  ⟨laid_anew alike renewed, by decide +kernel, by decide +kernel⟩

end Layout

end GraphViewer

import Mathlib.Data.List.Induction
import GraphViewer.Graph.Payload
import GraphViewer.Proofs.Exact
import GraphViewer.Proofs.Painted
import GraphViewer.Proofs.Places
/-
Where the links of a frame end. Nothing makes the ids of nodes unique, and an id names two nodes then: the
tests for what is shown take the first node that has it, and the layout takes the last one as the end of a
link. So a link that passes the tests always ends at the last nodes with the ids of its edge. It ends at the
nodes that were tested, which are painted, just if first and last node stand at the same place, and so
whenever ids are unique.
-/

namespace GraphViewer

/-! ## First and last -/

/-- The first place in a list at which an item stands. -/
def FirstAt {α : Type} (items : List α) (a : α) (i : Nat) : Prop :=
  items[i]? = some a ∧ ∀ j < i, items[j]? ≠ some a

/-- The last one. -/
def LastAt {α : Type} (items : List α) (a : α) (i : Nat) : Prop :=
  items[i]? = some a ∧ ∀ j, i < j → items[j]? ≠ some a

section

variable {α : Type} {items : List α} {a : α} {i j : Nat}

theorem FirstAt.unique (one : FirstAt items a i) (other : FirstAt items a j) : i = j := by
  rcases Nat.lt_trichotomy i j with before | same | after
  · exact absurd one.1 (other.2 i before)
  · exact same
  · exact absurd other.1 (one.2 j after)

theorem LastAt.unique (one : LastAt items a i) (other : LastAt items a j) : i = j := by
  rcases Nat.lt_trichotomy i j with before | same | after
  · exact absurd other.1 (one.2 j before)
  · exact same
  · exact absurd one.1 (other.2 i after)

theorem LastAt.append_singleton (items : List α) (a : α) : LastAt (items ++ [a]) a items.length := by
  refine ⟨List.getElem?_concat_length, fun j after => ?_⟩
  rw [List.getElem?_eq_none (by rw [List.length_append, List.length_singleton]; omega)]
  nofun

theorem LastAt.append_other {b : α} (last : LastAt items a i) (other : b ≠ a) :
    LastAt (items ++ [b]) a i := by
  obtain ⟨present, none⟩ := last
  refine ⟨by rw [List.getElem?_append_left (List.getElem?_eq_some_iff.1 present).1, present], ?_⟩
  intro j after here
  rcases Nat.lt_trichotomy j items.length with inside | same | outside
  · rw [List.getElem?_append_left inside] at here
    exact none j after here
  · subst same
    rw [List.getElem?_concat_length] at here
    exact other (Option.some.inj here)
  · rw [List.getElem?_eq_none (by rw [List.length_append, List.length_singleton]; omega)] at here
    cases here

end

namespace Snapshot

def ids (s : Snapshot) : List NodeId :=
  s.nodes.map Node.id

/-- A look-up by id finds the first node. -/
theorem first_of_node? {s : Snapshot} {id : NodeId} {n : Node} (found : s.node? id = some n) :
    ∃ i, FirstAt s.ids id i ∧ s.nodes[i]? = some n := by
  obtain ⟨same, i, inside, here, before⟩ := List.find?_eq_some_iff_getElem.1 found
  have present : s.nodes[i]? = some n := List.getElem?_eq_some_iff.2 ⟨inside, here⟩
  refine ⟨i, ⟨?_, ?_⟩, present⟩
  · rw [ids, List.getElem?_map, present]
    exact congrArg some (eq_of_beq same)
  · intro j earlier again
    rw [ids, List.getElem?_map, Option.map_eq_some_iff] at again
    obtain ⟨m, there, rfl⟩ := again
    obtain ⟨_, rfl⟩ := List.getElem?_eq_some_iff.1 there
    have unlike := before j earlier
    simp at unlike

end Snapshot

/-- A link that is shown has ends, and a node of the type of either would be shown. -/
theorem Interaction.ends_of_showsLink {x : Interaction} {s : Snapshot} {e : Edge}
    (shown : x.showsLink s e = true) :
    (∃ n, s.node? e.source = some n ∧ x.showsNode n = true) ∧
      ∃ n, s.node? e.target = some n ∧ x.showsNode n = true := by
  have active {n : Node} (on : x.isTypeActive n.entityType? = true) : x.showsNode n = true := by
    unfold showsNode
    cases key : n.entityType? with
    | none => rfl
    | some t =>
      rw [key] at on
      exact on
  unfold showsLink at shown
  split at shown
  · rename_i a b source target
    rw [Bool.and_eq_true] at shown
    exact ⟨⟨a, source, active shown.1⟩, b, target, active shown.2⟩
  · cases shown

namespace Layout

variable {W N : Type} [Scalar W] [Scalar N] [Narrowing W N] {s : Snapshot} {l next : Layout W N}

/-! ## A snapshot laid out -/

/-- A snapshot laid out, and what time, the pointer and the camera have made of the layout since. -/
inductive LaidOut (s : Snapshot) : Layout W N → Prop
  | load (l : Layout W N) : LaidOut s (l.load s)
  | tick {l next : Layout W N} {dt : N} : LaidOut s l → l.tick? dt = some next → LaidOut s next
  | pointerDown {l : Layout W N} (p : Point W) (t : Targets W) : LaidOut s l → LaidOut s (l.pointerDown p t)
  | pointerMove {l : Layout W N} (p : Point W) (t : Targets W) : LaidOut s l → LaidOut s (l.pointerMove p t).1
  | pointerUp {l : Layout W N} : LaidOut s l → LaidOut s l.pointerUp.1
  | pointerLeave {l : Layout W N} : LaidOut s l → LaidOut s l.pointerLeave.1
  | wheel {l : Layout W N} (p : Point W) (turn : W) : LaidOut s l → LaidOut s (l.wheel p turn)
  | obey {l : Layout W N} (o : CameraOrder W) : LaidOut s l → LaidOut s (l.obey o)
  | resize {l : Layout W N} (width height : W) : LaidOut s l → LaidOut s (l.resize width height)

/-- The nodes are those of the snapshot, and the links end at the last nodes with the ids of its edges. -/
structure EndsLast (s : Snapshot) (l : Layout W N) : Prop where
  ids : l.ids = s.ids
  ends : ∀ e ∈ l.edges, ∃ edge, s.edges[e.edge]? = some edge ∧
    LastAt s.ids edge.source e.source ∧ LastAt s.ids edge.target e.target

omit [Scalar N] in
/-- The layout looks for the last node. -/
theorem last_of_indexIn {particles : List (Particle N)} {id : NodeId} {i : Nat}
    (found : indexIn particles id = some i) : LastAt (particles.map Particle.id) id i := by
  induction particles using List.reverseRecOn with
  | nil => cases found
  | append_singleton particles p ih =>
    rw [List.map_append]
    rw [indexIn, List.zipIdx_append, List.reverse_append, List.zipIdx_singleton, List.reverse_singleton,
      List.singleton_append, List.find?_cons] at found
    cases same : p.id == id with
    | true =>
      obtain rfl := eq_of_beq same
      simp only [same, Nat.zero_add, Option.map_some, Option.some.injEq] at found
      have last := LastAt.append_singleton (particles.map Particle.id) p.id
      rw [List.length_map, found] at last
      exact last
    | false =>
      simp only [same] at found
      exact (ih found).append_other (ne_of_beq_false same)

theorem endsLast_load (l : Layout W N) (s : Snapshot) : EndsLast s (l.load s) where
  ids := l.ids_load s
  ends := by
    intro e among
    have named : (l.load s).particles.map Particle.id = s.ids := l.ids_load s
    obtain ⟨⟨edge, i⟩, member, made⟩ := List.mem_filterMap.1 among
    dsimp only at made
    split at made
    · rename_i source target first last
      cases made
      refine ⟨edge, List.mk_mem_zipIdx_iff_getElem?.1 member, ?_⟩
      rw [← named]
      exact ⟨last_of_indexIn first, last_of_indexIn last⟩
    · cases made

omit [Scalar W] [Scalar N] [Narrowing W N] in
/-- Nothing but a new snapshot changes the nodes and links of a layout. -/
theorem EndsLast.of_same (before : EndsLast s l) (ids : next.ids = l.ids) (edges : next.edges = l.edges) :
    EndsLast s next := by
  refine ⟨ids.trans before.ids, ?_⟩
  rw [edges]
  exact before.ends

theorem edges_tick {dt : N} (ticked : l.tick? dt = some next) : next.edges = l.edges := by
  obtain ⟨_, _, _, _, rfl⟩ := exists_of_tick ticked
  rfl

theorem edges_pointerDown (l : Layout W N) (p : Point W) (t : Targets W) :
    (l.pointerDown p t).edges = l.edges := by
  unfold pointerDown
  split <;> rfl

theorem edges_pointerMove (l : Layout W N) (p : Point W) (t : Targets W) :
    (l.pointerMove p t).1.edges = l.edges := by
  unfold pointerMove
  split
  · dsimp only [dragTo]
    split <;> rfl
  · rfl
  · dsimp only
    split <;> rfl

theorem ids_pointerMove (l : Layout W N) (p : Point W) (t : Targets W) :
    (l.pointerMove p t).1.ids = l.ids := by
  rcases l.pointerMove_finds p t with silent | ⟨_, moved⟩
  · exact silent.2.1
  · rw [moved]
    rfl

theorem endsLast (laid : LaidOut s l) : EndsLast s l := by
  induction laid with
  | load l => exact endsLast_load l s
  | tick _ ticked ih => exact ih.of_same (sameNodes_tick ticked).1 (edges_tick ticked)
  | @pointerDown l p t _ ih => exact ih.of_same (l.sameNodes_pointerDown p t).1 (l.edges_pointerDown p t)
  | @pointerMove l p t _ ih => exact ih.of_same (l.ids_pointerMove p t) (l.edges_pointerMove p t)
  | pointerUp _ ih => exact ih.of_same rfl rfl
  | pointerLeave _ ih => exact ih.of_same rfl rfl
  | wheel _ _ _ ih => exact ih.of_same rfl rfl
  | obey _ _ ih => exact ih.of_same rfl rfl
  | resize _ _ _ ih => exact ih.of_same rfl rfl

/-! ## Ends of links -/

variable {c : Scene} {id : NodeId} {p : Point W}

/-- A node is painted at the place, and it is the one that was tested: the first with the id. -/
def EndsAtTested (l : Layout W N) (c : Scene) (id : NodeId) (p : Point W) : Prop :=
  ∃ n ∈ l.paintedNodes c, c.snapshot.node? id = some n.node ∧ FirstAt c.snapshot.ids id n.index ∧ n.centre = p

/-- Every link of a frame goes from node to node as they are painted in it, and as they were tested. -/
def LinksEndAtTested (l : Layout W N) (c : Scene) : Prop :=
  ∀ s ∈ l.paintedLinks c, ∃ e, c.snapshot.edges[s.link.edge]? = some e ∧
    l.EndsAtTested c e.source s.start ∧ l.EndsAtTested c e.target s.finish

/-- The first and the last node with an id stand at the same place. -/
def OnePlace (l : Layout W N) (s : Snapshot) (id : NodeId) : Prop :=
  ∀ i j, FirstAt s.ids id i → LastAt s.ids id j → l.position? i = l.position? j

/-- What is behind an end of a link that is painted. -/
structure LinkEnd (l : Layout W N) (c : Scene) (id : NodeId) (p : Point W) : Prop where
  /-- The node that was tested is the first with the id, and it is painted. -/
  tested : ∃ n ∈ l.paintedNodes c, c.snapshot.node? id = some n.node ∧ FirstAt c.snapshot.ids id n.index
  /-- The link ends where the last one stands. -/
  last : ∃ i, LastAt c.snapshot.ids id i ∧ l.position? i = some p

section

omit [Scalar W] [Scalar N]

theorem LinkEnd.endsAtTested_iff (reached : l.LinkEnd c id p) :
    l.EndsAtTested c id p ↔ l.OnePlace c.snapshot id := by
  obtain ⟨j, last, place⟩ := reached.last
  constructor
  · rintro ⟨n, painted, _, first, rfl⟩ i k first' last'
    rw [first'.unique first, last'.unique last, place]
    exact ((mem_paintedNodes l c).1 painted).1
  · intro one
    obtain ⟨n, painted, found, first⟩ := reached.tested
    have there := one n.index j first last
    rw [((mem_paintedNodes l c).1 painted).1, place] at there
    exact ⟨n, painted, found, first, Option.some.inj there⟩

/-- An end that passed the tests is painted where the layout has its last node. -/
theorem EndsLast.linkEnd (ends : EndsLast c.snapshot l) {n : Node} (found : c.snapshot.node? id = some n)
    (shown : c.interaction.showsNode n = true) {j : Nat} (last : LastAt c.snapshot.ids id j)
    (place : l.position? j = some p) : l.LinkEnd c id p := by
  refine ⟨?_, j, last, place⟩
  obtain ⟨i, first, present⟩ := Snapshot.first_of_node? found
  have named : l.particles.map Particle.id = c.snapshot.ids := ends.ids
  have here := first.1
  rw [← named, List.getElem?_map, particles, Array.getElem?_toList, Option.map_eq_some_iff] at here
  obtain ⟨q, there, _⟩ := here
  have centre : l.position? i = some (centreOf q) := by rw [position?, there, Option.map_some]
  exact ⟨⟨i, n, centreOf q⟩, (mem_paintedNodes l c).2 ⟨centre, present, shown⟩, found, first⟩

theorem EndsLast.linkEnds (ends : EndsLast c.snapshot l) {s : Line W} (painted : s ∈ l.paintedLinks c) :
    ∃ e, c.snapshot.edges[s.link.edge]? = some e ∧ l.LinkEnd c e.source s.start ∧
      l.LinkEnd c e.target s.finish := by
  obtain ⟨among, shown, start, finish⟩ := (mem_paintedLinks l c).1 painted
  obtain ⟨e, present, source, target⟩ := ends.ends s.link among
  rw [Scene.showsLink, present, Option.any_some] at shown
  obtain ⟨⟨a, first, on⟩, b, second, on'⟩ := Interaction.ends_of_showsLink shown
  exact ⟨e, present, ends.linkEnd first on source start, ends.linkEnd second on' target finish⟩

end

/-- Where the links of a frame end. -/
structure LinkEnds (l : Layout W N) (c : Scene) : Prop where
  /-- Links are painted as lines, and nodes as discs over them. -/
  painted : ∀ measure : Measure W, Pen.fresh.shows (l.paint measure c) =
    ((l.paintedLinks c).flatMap (l.linkMarks c) ++ (l.paintedNodes c).flatMap (nodeMarks c)).map
      fun m => ⟨m, l.toCanvas⟩
  /-- A link ends at the last nodes with the ids of its edge, and the first ones were tested, and are
  painted: -/
  ends : ∀ s ∈ l.paintedLinks c, ∃ e, c.snapshot.edges[s.link.edge]? = some e ∧
    l.LinkEnd c e.source s.start ∧ l.LinkEnd c e.target s.finish
  /-- so all links go between nodes that are painted and were tested just if these stand at one place with
  the last ones, -/
  holds : l.LinksEndAtTested c ↔ ∀ s ∈ l.paintedLinks c, ∀ e, c.snapshot.edges[s.link.edge]? = some e →
    l.OnePlace c.snapshot e.source ∧ l.OnePlace c.snapshot e.target
  /-- as they do whenever ids are unique. -/
  unique : c.snapshot.ids.Nodup → l.LinksEndAtTested c

omit [Scalar W] [Scalar N] in
theorem onePlace_of_nodup (unique : s.ids.Nodup) (id : NodeId) : l.OnePlace s id := by
  intro i j first last
  have inside := (List.getElem?_eq_some_iff.1 first.1).1
  rw [(List.getElem?_inj inside unique).1 (first.1.trans last.1.symm)]

/-- Links are painted between the last nodes with their ids, whichever nodes were tested. -/
theorem link_ends (laid : LaidOut c.snapshot l) : l.LinkEnds c := by
  have ends := endsLast laid
  have holds : l.LinksEndAtTested c ↔ ∀ s ∈ l.paintedLinks c, ∀ e,
      c.snapshot.edges[s.link.edge]? = some e →
        l.OnePlace c.snapshot e.source ∧ l.OnePlace c.snapshot e.target := by
    refine forall₂_congr fun s painted => ?_
    obtain ⟨e, present, start, finish⟩ := ends.linkEnds painted
    rw [present]
    simp only [Option.some.injEq, exists_eq_left', forall_eq', start.endsAtTested_iff,
      finish.endsAtTested_iff]
  exact {
    painted := l.shows_paint c
    ends := fun s painted => ends.linkEnds painted
    holds := holds
    unique := fun unique => holds.2 fun _ _ _ _ => ⟨onePlace_of_nodup unique _, onePlace_of_nodup unique _⟩ }

/-! ## Closed layouts -/

def ofType (id : NodeId) (key : String) : Node :=
  ⟨id, [], [("entity_type", .string key)], 7⟩

/-- Two persons with a link. -/
def linkedPersons : Snapshot :=
  ⟨[ofType "a" "person", ofType "b" "person"], [⟨none, none, "a", "b"⟩], false⟩

/-- A snapshot with all its types switched on but organisations. -/
def withoutOrgs (s : Snapshot) : Scene :=
  ⟨s, (Interaction.initial.adopt s (Groups.ofSnapshot s)).1.toggleType (some "org"), .light⟩

/-- The link goes from one to the other. -/
theorem link_ends_persons : ∃ l : Layout Float Float32, LaidOut linkedPersons l ∧
    l.LinkEnds (withoutOrgs linkedPersons) ∧ (l.paintedLinks (withoutOrgs linkedPersons)).length = 1 ∧
      l.LinksEndAtTested (withoutOrgs linkedPersons) := by
  have laid : LaidOut linkedPersons ((create 800 600 : Layout Float Float32).load linkedPersons) := .load _
  have ends := link_ends (c := withoutOrgs linkedPersons) laid
  exact ⟨_, laid, ends, rfl, ends.unique (by decide)⟩

/-- The two persons, and an organisation with the id of one of them. -/
def sameIdTwice : String :=
  "\x7b\"nodes\":[\x7b\"id\":\"a\",\"properties\":\x7b\"entity_type\":\"person\"\x7d\x7d," ++
  "\x7b\"id\":\"b\",\"properties\":\x7b\"entity_type\":\"person\"\x7d\x7d," ++
  "\x7b\"id\":\"a\",\"properties\":\x7b\"entity_type\":\"org\"\x7d\x7d]," ++
  "\"edges\":[\x7b\"source\":\"a\",\"target\":\"b\"\x7d]\x7d"

def withOrg : Snapshot :=
  { linkedPersons with nodes := linkedPersons.nodes ++ [ofType "a" "org"] }

/-- How high the nodes of a snapshot with three nodes start. -/
noncomputable def startHeight (i : ℕ) : ℝ :=
  (centreOf (seed (W := ℝ) "a" i 3 : Particle ℝ) : Point ℝ).y

theorem startHeight_eq (i : ℕ) : startHeight i = 100 * Real.sin (i * 2 * Real.pi / 3) := by
  show ((100 : ℕ) : ℝ) * Real.sin (i * (2 : ℕ) * Real.pi / (3 : ℕ)) = _
  norm_num

theorem startHeight_nonneg {i : ℕ} (early : i ≤ 1) : 0 ≤ startHeight i := by
  have part : (i : ℝ) ≤ 1 := by exact_mod_cast early
  have turn : i * 2 * Real.pi / 3 ≤ Real.pi := by nlinarith [Real.pi_pos]
  have upper := Real.sin_nonneg_of_nonneg_of_le_pi (by positivity) turn
  rw [startHeight_eq]
  positivity

theorem startHeight_two : startHeight 2 < 0 := by
  have turn : ((2 : ℕ) : ℝ) * 2 * Real.pi / 3 = Real.pi / 3 + Real.pi := by
    push_cast
    ring
  have upper : 0 < Real.sin (Real.pi / 3) :=
    Real.sin_pos_of_pos_of_lt_pi (by positivity) (by linarith [Real.pi_pos])
  rw [startHeight_eq, turn, Real.sin_add_pi]
  linarith

/-- With organisations switched off, a link is painted that starts where no node is painted, at the place of
the organisation. -/
theorem link_to_hidden : (Payload.read sameIdTwice).map Snapshot.ofPayload = .ok withOrg ∧
    ∃ l : Layout ℝ ℝ, LaidOut withOrg l ∧
      (∃ s ∈ l.paintedLinks (withoutOrgs withOrg), ∀ n ∈ l.paintedNodes (withoutOrgs withOrg),
        n.centre ≠ s.start) ∧
      ¬ l.LinksEndAtTested (withoutOrgs withOrg) := by
  have decoded : (Payload.read sameIdTwice).map Snapshot.ofPayload = .ok withOrg := by cbv
  let l : Layout ℝ ℝ := (create 800 600).load withOrg
  let place (i : ℕ) : Point ℝ := centreOf (seed (W := ℝ) "a" i 3 : Particle ℝ)
  have links : l.paintedLinks (withoutOrgs withOrg) = [⟨⟨2, 1, 0⟩, place 2, place 1⟩] := rfl
  have nodes : l.paintedNodes (withoutOrgs withOrg) =
      [⟨0, ofType "a" "person", place 0⟩, ⟨1, ofType "b" "person", place 1⟩] := rfl
  -- only the last of three nodes on a circle starts below the middle
  have alone : ∀ n ∈ l.paintedNodes (withoutOrgs withOrg), n.centre ≠ place 2 := by
    intro n painted same
    have below : n.centre.y < 0 := by
      rw [same]
      exact startHeight_two
    rw [nodes] at painted
    rcases painted with _ | ⟨_, _ | ⟨_, ⟨⟩⟩⟩
    · exact absurd below (not_lt.2 (startHeight_nonneg zero_le_one))
    · exact absurd below (not_lt.2 (startHeight_nonneg le_rfl))
  have link : ⟨⟨2, 1, 0⟩, place 2, place 1⟩ ∈ l.paintedLinks (withoutOrgs withOrg) := by
    rw [links]
    exact List.mem_singleton_self _
  refine ⟨decoded, l, .load _, ⟨_, link, alone⟩, fun all => ?_⟩
  obtain ⟨_, _, ⟨n, painted, _, _, same⟩, _⟩ := all _ link
  exact alone n painted same

end Layout

end GraphViewer

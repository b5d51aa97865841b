import Mathlib.Data.List.Forall2
import GraphViewer.Service.Exchange
import GraphViewer.Paint.Style
import GraphViewer.Proofs.Exact
/-
How the nodes of a graph are weighed. A node weighs as much as it has edges in the direction in which it has
more, and a least weight otherwise. Edges count where they name the node, whether or not the other end exists.
The count is kept in 32 bits, so all of this is said of graphs whose edges can be counted: of 2 ^ 32 edges into
one node none would be left.
-/

namespace GraphViewer

open Scalar (nat zero one)

/-- What the service sent of a node. -/
def Node.sent (n : Node) : SentNode :=
  ⟨n.id, n.labels, n.properties⟩

namespace Payload

variable (p : Payload)

def edgesInto (id : NodeId) : List Edge :=
  p.edges.filter (·.target = id)

def edgesOutOf (id : NodeId) : List Edge :=
  p.edges.filter (·.source = id)

/-- Both ends of the edge are ids of nodes. -/
def HasEnds (e : Edge) : Prop :=
  (∃ n ∈ p.nodes, n.id = e.source) ∧ ∃ n ∈ p.nodes, n.id = e.target

instance (e : Edge) : Decidable (p.HasEnds e) :=
  inferInstanceAs (Decidable (_ ∧ _))

/-- The edges that lack an end. -/
def unresolved : List Edge :=
  p.edges.filter (¬ p.HasEnds ·)

end Payload

/-! ## One weight -/

section

variable {edges : List Edge} {e : Edge} {id : NodeId}

theorem wrapped_of_lt {count : Nat} (few : count < 2 ^ 32) : wrapped count = count :=
  Nat.mod_eq_of_lt (few.trans_eq (by norm_num [UInt32.size]))

theorem wrapped_countP (few : edges.length < 2 ^ 32) (counted : Edge → Bool) :
    wrapped (edges.countP counted) = edges.countP counted :=
  wrapped_of_lt (List.countP_le_length.trans_lt few)

theorem nodeWeight_eq (few : edges.length < 2 ^ 32) (id : NodeId) : nodeWeight edges id =
    max leastWeight (max (edges.countP (·.target == id)) (edges.countP (·.source == id))) := by
  rw [nodeWeight, wrapped_countP few, wrapped_countP few, max_comm]

theorem nodeWeight_perm {others : List Edge} (same : others.Perm edges) (id : NodeId) :
    nodeWeight others id = nodeWeight edges id := by
  rw [nodeWeight, nodeWeight, same.countP_eq, same.countP_eq]

theorem leastWeight_le_nodeWeight : leastWeight ≤ nodeWeight edges id :=
  le_max_right _ _

/-! One edge more, at any place among the others. -/

variable {before after : List Edge}

theorem countP_insert (counted : Edge → Bool) :
    (before ++ e :: after).countP counted = (before ++ after).countP counted + if counted e then 1 else 0 := by
  rw [List.countP_append, List.countP_append, List.countP_cons, Nat.add_assoc]

theorem length_remove (few : (before ++ e :: after).length < 2 ^ 32) : (before ++ after).length < 2 ^ 32 := by
  rw [List.length_append, List.length_cons] at few
  rw [List.length_append]
  omega

theorem nodeWeight_le_insert (few : (before ++ e :: after).length < 2 ^ 32) (id : NodeId) :
    nodeWeight (before ++ after) id ≤ nodeWeight (before ++ e :: after) id := by
  rw [nodeWeight_eq (length_remove few), nodeWeight_eq few, countP_insert, countP_insert]
  omega

theorem nodeWeight_insert_le (few : (before ++ e :: after).length < 2 ^ 32) (id : NodeId) :
    nodeWeight (before ++ e :: after) id ≤ nodeWeight (before ++ after) id + 1 := by
  rw [nodeWeight_eq (length_remove few), nodeWeight_eq few, countP_insert, countP_insert]
  split_ifs <;> omega

theorem nodeWeight_insert_elsewhere (source : e.source ≠ id) (target : e.target ≠ id) :
    nodeWeight (before ++ e :: after) id = nodeWeight (before ++ after) id := by
  rw [nodeWeight, nodeWeight, countP_insert, countP_insert, if_neg (by simpa using target),
    if_neg (by simpa using source), Nat.add_zero, Nat.add_zero]

end

/-! ## The weights of a graph -/

/-- What one more edge does to a node. -/
structure Node.Gains (e : Edge) (old new : Node) : Prop where
  sent : new.sent = old.sent
  /-- The node does not weigh less than before, -/
  notLess : old.weight ≤ new.weight
  /-- and at most by one more, -/
  byOne : new.weight ≤ old.weight + 1
  /-- which takes an end of the edge. -/
  ends : old.weight < new.weight → new.id = e.source ∨ new.id = e.target

namespace Snapshot

variable {p : Payload} {n : Node} {e : Edge} {before after : List Edge}

theorem sent_ofPayload (p : Payload) : (ofPayload p).nodes.map Node.sent = p.nodes :=
  (List.map_map ..).trans (List.map_id _)

theorem mem_ofPayload : n ∈ (ofPayload p).nodes ↔ n.sent ∈ p.nodes ∧ n.weight = nodeWeight p.edges n.id := by
  constructor
  · intro among
    obtain ⟨m, among', rfl⟩ := List.mem_map.1 among
    exact ⟨among', rfl⟩
  · rintro ⟨among, weight⟩
    refine List.mem_map.2 ⟨n.sent, among, ?_⟩
    rw [Node.sent, ← weight]

theorem contains_ofPayload {id : NodeId} : (ofPayload p).contains id = true ↔ ∃ n ∈ p.nodes, n.id = id := by
  rw [contains_iff]
  simp [ofPayload]

theorem isResolved_ofPayload : (ofPayload p).isResolved e = true ↔ p.HasEnds e := by
  rw [isResolved, Bool.and_eq_true, contains_ofPayload, contains_ofPayload, Payload.HasEnds]

theorem danglingCount_ofPayload (p : Payload) : (ofPayload p).danglingCount = p.unresolved.length := by
  rw [danglingCount, List.countP_eq_length_filter, Payload.unresolved]
  congr 2
  funext e
  rw [Bool.eq_iff_iff]
  simp [← isResolved_ofPayload]

/-- One more edge adds at most one to what its ends weigh, and nothing to the others. -/
theorem gains_ofPayload (few : (before ++ e :: after).length < 2 ^ 32) (nodes : List SentNode) (truncated : Bool) :
    List.Forall₂ (Node.Gains e) (ofPayload ⟨nodes, before ++ after, truncated⟩).nodes
      (ofPayload ⟨nodes, before ++ e :: after, truncated⟩).nodes := by
  refine List.forall₂_map_left_iff.2 (List.forall₂_map_right_iff.2 (List.forall₂_same.2 fun n _ => ?_))
  refine ⟨rfl, nodeWeight_le_insert few n.id, nodeWeight_insert_le few n.id, fun more => ?_⟩
  by_contra elsewhere
  obtain ⟨source, target⟩ := not_or.1 elsewhere
  exact more.ne (nodeWeight_insert_elsewhere (Ne.symm source) (Ne.symm target)).symm

end Snapshot

/-! ## The warning -/

theorem Loaded.notices_ofPayload (p : Payload) : (Loaded.ofPayload p).notices =
    if p.unresolved.length = 0 then [] else [.danglingEdges p.unresolved.length] := by
  rw [← Snapshot.danglingCount_ofPayload]
  rfl

theorem Payload.length_unresolved_pos {p : Payload} :
    0 < p.unresolved.length ↔ ∃ e ∈ p.edges, ¬ p.HasEnds e := by
  rw [List.length_pos_iff_exists_mem]
  simp [unresolved]

theorem Loaded.mem_notices_ofPayload {p : Payload} {notice : Notice} : notice ∈ (Loaded.ofPayload p).notices ↔
    0 < p.unresolved.length ∧ notice = .danglingEdges p.unresolved.length := by
  rw [notices_ofPayload, Nat.pos_iff_ne_zero]
  split_ifs with none
  · simp [none]
  · simp [none]

/-- A call for a graph that gets it logs the same warning. -/
theorem Client.warns_graph {c : Client} {collection : CollectionId} {access : Access} {reply : Option Reply}
    {p : Payload} (sent : c.readBody (.graph collection access) Payload.read reply = .ok p) {count : Nat} :
    .danglingEdges count ∈ (c.graph collection access reply).2 ↔
      .danglingEdges count ∈ (Loaded.ofPayload p).notices := by
  rw [graph, sent]
  cases reply <;> simp [waitNotices]

/-! ## The radius -/

/-- The radius stays between the least weight and one more than the largest radius of a node not pointed at. -/
def Interaction.Bounded (W : Type) [Scalar W] (x : Interaction) (n : Node) : Prop :=
  nat leastWeight ≤ (x.paintedRadius n : W) ∧ x.paintedRadius n ≤ (nat radiusLimit + one : W)

namespace Interaction

variable (x : Interaction) {n : Node}

theorem paintedRadius_eq {W : Type} [Scalar W] (heavy : leastWeight ≤ n.weight) :
    ∃ size ∈ List.range' leastWeight (radiusLimit + 1 - leastWeight), ∃ more ∈ [one, zero],
      x.paintedRadius n = (nat size + more : W) := by
  refine ⟨min n.weight radiusLimit, ?_, if x.hoveredNode? = some n.id then one else zero, ?_, rfl⟩
  · rw [List.mem_range'_1]
    have limit : leastWeight ≤ radiusLimit := by decide
    omega
  · split <;> simp

theorem bounded_real (heavy : leastWeight ≤ n.weight) : x.Bounded ℝ n := by
  obtain ⟨size, within, more, added, eq⟩ := x.paintedRadius_eq (W := ℝ) heavy
  obtain ⟨low, high⟩ := List.mem_range'_1.1 within
  have low' : (leastWeight : ℝ) ≤ size := Nat.cast_le.2 low
  have high' : (size : ℝ) ≤ radiusLimit := Nat.cast_le.2 (by omega)
  rw [Bounded, eq]
  simp only [List.mem_cons, List.not_mem_nil, or_false] at added
  rcases added with rfl | rfl
  · simp only [Scalar.nat_real, Scalar.one_real]
    constructor <;> linarith
  · simp only [Scalar.nat_real, Scalar.one_real, Scalar.zero_real]
    constructor <;> linarith

/-- The radius takes few values, and all of them are in the range. -/
theorem bounded_float (heavy : leastWeight ≤ n.weight) : x.Bounded Float n := by
  obtain ⟨size, within, more, added, eq⟩ := x.paintedRadius_eq (W := Float) heavy
  have all : ∀ size ∈ List.range' leastWeight (radiusLimit + 1 - leastWeight), ∀ more ∈ [one, zero],
      nat leastWeight ≤ (nat size + more : Float) ∧ nat size + more ≤ (nat radiusLimit + one : Float) := by
    decide +kernel
  rw [Bounded, eq]
  exact all size within more added

end Interaction

/-! ## What becomes of a graph -/

namespace Payload

/-- What becomes of a graph that the service sent. -/
structure Weighs (p : Payload) : Prop where
  /-- The nodes stay as they were sent, and in their order, -/
  nodes : (Snapshot.ofPayload p).nodes.map Node.sent = p.nodes
  /-- and so do the edges. -/
  edges : (Snapshot.ofPayload p).edges = p.edges
  truncated : (Snapshot.ofPayload p).truncated = p.truncated
  /-- A node weighs as much as there are edges into it, or out of it if those are more, and not less than any node
  does. An edge from a node to itself is one of either kind. -/
  weight : ∀ n ∈ (Snapshot.ofPayload p).nodes,
    n.weight = max leastWeight (max (p.edgesInto n.id).length (p.edgesOutOf n.id).length)
  /-- The nodes do not depend on the order of the edges. -/
  order : ∀ edges, edges.Perm p.edges → (Snapshot.ofPayload { p with edges }).nodes = (Snapshot.ofPayload p).nodes
  /-- Whichever edge was added last, and wherever, no node weighs less for it, and only its ends may weigh more. -/
  gains : ∀ before e after, p.edges = before ++ e :: after →
    List.Forall₂ (Node.Gains e) (Snapshot.ofPayload { p with edges := before ++ after }).nodes
      (Snapshot.ofPayload p).nodes
  /-- No node is painted smaller or larger than the limits allow, in exact numbers and in those of a painter. -/
  painted : ∀ (x : Interaction), ∀ n ∈ (Snapshot.ofPayload p).nodes, x.Bounded ℝ n ∧ x.Bounded Float n
  /-- There is something to log just if some edge lacks an end, -/
  warned : (Loaded.ofPayload p).notices ≠ [] ↔ ∃ e ∈ p.edges, ¬ p.HasEnds e
  /-- and then one warning is logged, with the number of those edges. -/
  counted : ∀ notice ∈ (Loaded.ofPayload p).notices, (Loaded.ofPayload p).notices = [notice] ∧
    notice.level = .warn ∧ notice = .danglingEdges p.unresolved.length
  /-- The log of a call that gets the graph has this warning, and no other about edges. -/
  logged : ∀ (c : Client) collection access reply,
    c.readBody (.graph collection access) Payload.read reply = .ok p →
      ∀ count, .danglingEdges count ∈ (c.graph collection access reply).2 ↔
        0 < count ∧ count = p.unresolved.length

/-- Weights are counted edges, as long as the edges can be counted. -/
theorem weighs_of_few {p : Payload} (few : p.edges.length < 2 ^ 32) : p.Weighs where
  nodes := Snapshot.sent_ofPayload p
  edges := rfl
  truncated := rfl
  weight n among := by
    rw [(Snapshot.mem_ofPayload.1 among).2, nodeWeight_eq few, List.countP_eq_length_filter,
      List.countP_eq_length_filter]
    rfl
  order edges same := by
    refine List.map_congr_left fun n _ => ?_
    rw [nodeWeight_perm same]
  gains before e after made := by
    obtain ⟨nodes, edges, truncated⟩ := p
    subst made
    exact Snapshot.gains_ofPayload few nodes truncated
  painted x n among := by
    have heavy : leastWeight ≤ n.weight := (Snapshot.mem_ofPayload.1 among).2 ▸ leastWeight_le_nodeWeight
    exact ⟨x.bounded_real heavy, x.bounded_float heavy⟩
  warned := by
    rw [← Payload.length_unresolved_pos, Loaded.notices_ofPayload, Nat.pos_iff_ne_zero]
    split_ifs with none <;> simp [none]
  counted notice logged := by
    obtain ⟨some, rfl⟩ := Loaded.mem_notices_ofPayload.1 logged
    exact ⟨(Loaded.notices_ofPayload p).trans (if_neg some.ne'), rfl, rfl⟩
  logged c collection access reply sent count := by
    rw [Client.warns_graph sent, Loaded.mem_notices_ofPayload, Notice.danglingEdges.injEq]
    constructor
    · rintro ⟨some, rfl⟩
      exact ⟨some, rfl⟩
    · rintro ⟨some, rfl⟩
      exact ⟨some, rfl⟩

/-- Eight edges from one node to another, an edge from that one to itself, and an edge to nowhere. -/
def entangled : Payload where
  nodes := [⟨"a", [], []⟩, ⟨"b", [], []⟩, ⟨"c", [], []⟩]
  edges := List.replicate 8 ⟨none, none, "a", "b"⟩ ++ [⟨none, none, "b", "b"⟩, ⟨none, none, "c", "d"⟩]
  truncated := false

/-- The edge from the node to itself is counted once in each direction. -/
theorem weighs_entangled : entangled.edges.length < 2 ^ 32 ∧ entangled.Weighs ∧
    (Snapshot.ofPayload entangled).nodes.map (·.weight) = [8, 9, 7] ∧
    (Loaded.ofPayload entangled).notices = [.danglingEdges 1] := by
  have few : entangled.edges.length < 2 ^ 32 := by decide
  exact ⟨few, weighs_of_few few, by decide +kernel, rfl⟩

end Payload

end GraphViewer

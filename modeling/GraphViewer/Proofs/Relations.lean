import Mathlib.Data.List.Forall2
import GraphViewer.Proofs.Highlights
/-
What an active node highlights, against its relations. A panel lists the relations of a node by one pass over the
edges, and what is highlighted comes from another one. Both find the same edges in the same order with the same
nodes at their other ends, whether edges are loops, run side by side or lack an end. So a node is highlighted by
those that it highlights itself, and through the same edges.
-/

namespace GraphViewer

/-- The edge joins two nodes, in either direction. -/
def Edge.Joins (e : Edge) (a b : NodeId) : Prop :=
  (e.source = a ∧ e.target = b) ∨ (e.source = b ∧ e.target = a)

theorem Edge.joins_comm {e : Edge} {a b : NodeId} : e.Joins a b ↔ e.Joins b a :=
  or_comm

theorem Edge.otherEnd?_eq_some_iff_joins {e : Edge} {id other : NodeId} :
    e.otherEnd? id = some other ↔ e.Joins id other :=
  otherEnd?_eq_some_iff.trans (or_congr_right and_comm)

namespace Snapshot

variable {s : Snapshot} {id : NodeId}

/-- The entry of a panel tells of the edge at an index: it names the node at the other end, and is called by the
kind of the edge, or else by its id. -/
def Tells (s : Snapshot) (id : NodeId) (i : EdgeIndex) (entry : String × NodeId) : Prop :=
  ∃ e, s.edges[i]? = some e ∧ e.Joins id entry.2 ∧ entry.1 = e.kind.getD (e.id.getD "related")

/-- An edge with both ends that touches a node, its index and its other end. -/
def touching (s : Snapshot) (id : NodeId) : List (Edge × EdgeIndex × NodeId) :=
  s.edges.zipIdx.filterMap fun (e, i) => if s.isResolved e then (e.otherEnd? id).map (e, i, ·) else none

theorem mem_touching {e : Edge} {i : EdgeIndex} {other : NodeId} (among : (e, i, other) ∈ s.touching id) :
    s.edges[i]? = some e ∧ e.Joins id other := by
  obtain ⟨⟨e', j⟩, member, kept⟩ := List.mem_filterMap.1 among
  by_cases resolved : s.isResolved e' = true
  · obtain ⟨o, isOther, same⟩ : ∃ o, e'.otherEnd? id = some o ∧ (e', j, o) = (e, i, other) := by
      simpa [resolved] using kept
    cases same
    exact ⟨List.mk_mem_zipIdx_iff_getElem?.1 member, Edge.otherEnd?_eq_some_iff_joins.1 isOther⟩
  · simp [resolved] at kept

theorem incident_eq : s.incident id = (s.touching id).map Prod.snd := by
  rw [incident, touching, List.map_filterMap]
  congr 1
  funext place
  obtain ⟨e, i⟩ := place
  cases resolved : s.isResolved e <;> simp [resolved, Function.comp_def]

theorem relations_eq : s.relations id = (s.touching id).map fun t => (t.1.label, t.2.2) := by
  have places : s.edges.filter s.isResolved =
      (s.edges.zipIdx.map Prod.fst).filter s.isResolved := by rw [List.zipIdx_map_fst]
  rw [relations, places, List.filter_map, List.filterMap_map, List.filterMap_filter, touching, List.map_filterMap]
  congr 1
  funext place
  obtain ⟨e, i⟩ := place
  cases resolved : s.isResolved e <;> simp [resolved, Function.comp_def]

/-- The nodes that a panel lists are those that an edge with both ends joins to the node. -/
theorem listed_iff {other : NodeId} : (∃ label, (label, other) ∈ s.relations id) ↔
    ∃ e ∈ s.edges, s.isResolved e = true ∧ e.Joins id other := by
  simp only [relations, List.mem_filterMap, List.mem_filter, Option.map_eq_some_iff, Prod.mk.injEq,
    Edge.otherEnd?_eq_some_iff_joins]
  constructor
  · rintro ⟨_, e, ⟨member, resolved⟩, _, joins, _, rfl⟩
    exact ⟨e, member, resolved, joins⟩
  · rintro ⟨e, member, resolved, joins⟩
    exact ⟨e.label, e, ⟨member, resolved⟩, other, joins, rfl, rfl⟩

/-- Entry by entry, a panel tells of the edges that highlights are found by. -/
theorem tells_relations : List.Forall₂ (s.Tells id) ((s.incident id).map Prod.fst) (s.relations id) := by
  rw [incident_eq, relations_eq, List.map_map, List.forall₂_map_left_iff, List.forall₂_map_right_iff,
    List.forall₂_same]
  rintro ⟨e, i, other⟩ among
  obtain ⟨present, joins⟩ := mem_touching among
  refine ⟨e, present, joins, ?_⟩
  rw [Edge.label]
  cases e.kind <;> rfl

/-- Edges are found in the order of their indices, and each of them once. -/
theorem incident_ascending : ((s.incident id).map Prod.fst).Pairwise (· < ·) := by
  have places : s.edges.zipIdx.Pairwise fun a b => a.2 < b.2 := by
    rw [← List.pairwise_map, List.zipIdx_map_snd]
    exact List.pairwise_lt_range'
  have index {p : Edge × EdgeIndex} {i : EdgeIndex}
      (kept : (if s.isResolved p.1 then (p.1.otherEnd? id).map (p.2, ·) else none).map Prod.fst = some i) :
      p.2 = i := by
    cases resolved : s.isResolved p.1 <;> cases isOther : p.1.otherEnd? id <;>
      simp_all
  rw [incident, List.map_filterMap, List.pairwise_filterMap]
  refine places.imp fun before i here j there => ?_
  rw [← index here, ← index there]
  exact before

end Snapshot

namespace Interaction

variable {x : Interaction} {s : Snapshot} {f g other : NodeId} {i : EdgeIndex}

/-- The interaction with a node made active. -/
def onNode (x : Interaction) (s : Snapshot) (id : NodeId) : Interaction :=
  (x.select s (some id)).1

theorem highlight_onNode : (x.onNode s f).highlight s = x.onNode s f :=
  highlight_select (some f)

theorem mem_nodes_onNode : other ∈ (x.onNode s f).highlightedNodes ↔
    other = f ∨ ∃ e ∈ s.edges, s.isResolved e = true ∧ e.Joins f other := by
  refine (mem_highlightedNodes_iff highlight_onNode rfl).trans ?_
  simp only [Edge.Joins, and_comm]

theorem mem_links_onNode : i ∈ (x.onNode s f).highlightedLinks ↔
    ∃ e, s.edges[i]? = some e ∧ s.isResolved e = true ∧ (e.source = f ∨ e.target = f) :=
  mem_highlightedLinks_iff highlight_onNode rfl

/-- The links between two nodes are highlighted by either of them if they are by the other. -/
theorem links_between : (i ∈ (x.onNode s f).highlightedLinks ∧ ∃ e, s.edges[i]? = some e ∧ e.Joins f g) ↔
    ∃ e, s.edges[i]? = some e ∧ s.isResolved e = true ∧ e.Joins f g := by
  rw [mem_links_onNode]
  constructor
  · rintro ⟨⟨e, present, resolved, _⟩, _, present', joins⟩
    cases present.symm.trans present'
    exact ⟨e, present, resolved, joins⟩
  · rintro ⟨e, present, resolved, joins⟩
    exact ⟨⟨e, present, resolved, joins.imp And.left And.right⟩, e, present, joins⟩

/-- What is highlighted in a snapshot while a node is active, whatever was highlighted before. -/
structure HighlightsRelations (x : Interaction) (s : Snapshot) (f : NodeId) : Prop where
  /-- It is the node itself and the nodes that a panel lists as its relations, -/
  nodes : ∀ {other}, other ∈ (x.onNode s f).highlightedNodes ↔
    other = f ∨ ∃ label, (label, other) ∈ s.relations f
  /-- and the edges that touch it and have both their ends, -/
  links : ∀ {i}, i ∈ (x.onNode s f).highlightedLinks ↔
    ∃ e, s.edges[i]? = some e ∧ s.isResolved e = true ∧ (e.source = f ∨ e.target = f)
  /-- each of them once, by its index; -/
  ascending : (x.onNode s f).highlightedLinks.Pairwise (· < ·)
  /-- in this order they are the edges that the entries of the panel tell of, one by one. -/
  entries : List.Forall₂ (s.Tells f) (x.onNode s f).highlightedLinks (s.relations f)
  count : (x.onNode s f).highlightedLinks.length = (s.relations f).length
  /-- Any other node is highlighted if there is such an edge between the two, -/
  joined : ∀ {g}, g ≠ f → (g ∈ (x.onNode s f).highlightedNodes ↔
    ∃ i ∈ (x.onNode s f).highlightedLinks, ∃ e, s.edges[i]? = some e ∧ e.Joins f g)
  /-- and the same edges highlight this node while the other one is active. -/
  reciprocal : ∀ (y : Interaction) (g : NodeId),
    (g ∈ (x.onNode s f).highlightedNodes ↔ f ∈ (y.onNode s g).highlightedNodes) ∧
    ∀ i, (i ∈ (x.onNode s f).highlightedLinks ∧ ∃ e, s.edges[i]? = some e ∧ e.Joins f g) ↔
      (i ∈ (y.onNode s g).highlightedLinks ∧ ∃ e, s.edges[i]? = some e ∧ e.Joins g f)

/-- An active node highlights its relations, in every snapshot and whether it is a node there or not. -/
theorem highlights_relations (x : Interaction) (s : Snapshot) (f : NodeId) : HighlightsRelations x s f where
  nodes := by
    intro other
    rw [mem_nodes_onNode, Snapshot.listed_iff]
  links := mem_links_onNode
  ascending := s.incident_ascending
  entries := s.tells_relations
  count := s.tells_relations.length_eq
  joined := by
    intro g distinct
    rw [mem_nodes_onNode, or_iff_right distinct]
    simp only [links_between]
    constructor
    · rintro ⟨e, member, resolved, joins⟩
      obtain ⟨i, present⟩ := List.getElem?_of_mem member
      exact ⟨i, e, present, resolved, joins⟩
    · rintro ⟨i, e, present, resolved, joins⟩
      exact ⟨e, List.mem_of_getElem? present, resolved, joins⟩
  reciprocal y g := by
    refine ⟨?_, fun i => ?_⟩
    · simp only [mem_nodes_onNode, eq_comm (a := g), Edge.joins_comm (a := g)]
    · simp only [links_between]
      simp only [Edge.joins_comm (a := g)]

end Interaction

end GraphViewer

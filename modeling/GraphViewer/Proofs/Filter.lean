import GraphViewer.Graph.Payload
import GraphViewer.Paint.Style
import GraphViewer.Proofs.Switches
/-
What the switches of the types leave to be seen of a graph. A graph that is taken over first comes with all its
types switched on, and from then on a type is on just if its switch was used an even number of times. A node
without a type is shown in any case. The untyped nodes have a switch too, though, and links heed it: a link is
shown if both its ends exist and are of types, or untyped, that are switched on.
-/

namespace GraphViewer

/-- The groups of a snapshot are those of its nodes. -/
theorem Groups.mem_keys_ofSnapshot {s : Snapshot} {key : EntityKey} :
    key ∈ (ofSnapshot s).keys ↔ ∃ n ∈ s.nodes, n.entityType? = key := by
  have folded (nodes : List Node) (g : Groups) :
      key ∈ (nodes.foldl add g).keys ↔ key ∈ g.keys ∨ ∃ n ∈ nodes, n.entityType? = key := by
    induction nodes generalizing g with
    | nil => simp
    | cons n rest ih =>
      have grown : key ∈ (g.add n).keys ↔ key = n.entityType? ∨ key ∈ g.keys := mem_keys_addTo
      rw [List.foldl_cons, ih, grown]
      simp only [List.exists_mem_cons_iff]
      grind
  rw [ofSnapshot, folded]
  simp [keys, empty]

namespace Interaction

variable {x : Interaction} {s : Snapshot} {p : Payload} {n : Node} {keys : List EntityKey} {key : EntityKey}

/-- A graph is taken over first, and then some switches are used. -/
def switched (p : Payload) (keys : List EntityKey) : Interaction :=
  let g := Loaded.ofPayload p
  keys.foldl toggleType (initial.adopt g.snapshot g.groups).1

/-- Switches change the types that they are used on an odd number of times. -/
theorem mem_foldl_toggleType :
    key ∈ (keys.foldl toggleType x).activeTypes ↔ Xor (key ∈ x.activeTypes) (Odd (keys.count key)) := by
  induction keys generalizing x with
  | nil => simp [xor_def]
  | cons first rest ih => rw [List.foldl_cons, ih, mem_toggleType, xor_odd_count_cons]

/-- The first graph switches its types on. An empty one has none. -/
theorem adopt_initial_types (s : Snapshot) (g : Groups) : (initial.adopt s g).1.activeTypes = g.keys := by
  rw [(initial.adopt_types s g).1]
  obtain ⟨entries⟩ := g
  cases entries <;> rfl

/-- The type of a node of the graph is on if it was switched an even number of times. -/
theorem isTypeActive_switched (among : n ∈ (Snapshot.ofPayload p).nodes) :
    (switched p keys).isTypeActive n.entityType? = true ↔ Even (keys.count n.entityType?) := by
  have known : n.entityType? ∈ (Loaded.ofPayload p).groups.keys :=
    Groups.mem_keys_ofSnapshot.2 ⟨n, among, rfl⟩
  rw [isTypeActive, List.contains_iff_mem, switched, mem_foldl_toggleType, adopt_initial_types,
    ← Nat.not_odd_iff_even]
  simp [xor_def, known]

theorem showsNode_switched (among : n ∈ (Snapshot.ofPayload p).nodes) :
    (switched p keys).showsNode n = true ↔ n.entityType? = none ∨ Even (keys.count n.entityType?) := by
  rw [← isTypeActive_switched among, showsNode]
  cases n.entityType? <;> simp

theorem showsLink_iff {e : Edge} : x.showsLink s e = true ↔
    ∃ a b, s.node? e.source = some a ∧ s.node? e.target = some b ∧
      x.isTypeActive a.entityType? = true ∧ x.isTypeActive b.entityType? = true := by
  unfold showsLink
  cases s.node? e.source <;> cases s.node? e.target <;> simp

theorem showsLink_switched {e : Edge} : (switched p keys).showsLink (Snapshot.ofPayload p) e = true ↔
    ∃ a b, (Snapshot.ofPayload p).node? e.source = some a ∧ (Snapshot.ofPayload p).node? e.target = some b ∧
      Even (keys.count a.entityType?) ∧ Even (keys.count b.entityType?) := by
  rw [showsLink_iff]
  refine exists₂_congr fun a b => and_congr_right fun source => and_congr_right fun target => ?_
  rw [isTypeActive_switched (List.mem_of_find?_eq_some source),
    isTypeActive_switched (List.mem_of_find?_eq_some target)]

/-- What is to be seen of a graph after its switches were used. -/
structure Filtered (p : Payload) (keys : List EntityKey) : Prop where
  /-- A node is shown if it has no type, or its type was switched an even number of times. -/
  node : ∀ {n}, n ∈ (Snapshot.ofPayload p).nodes →
    ((switched p keys).showsNode n = true ↔ n.entityType? = none ∨ Even (keys.count n.entityType?))
  /-- A link is shown if both its ends exist, and the type of either, or the untyped group, was switched an
  even number of times. -/
  link : ∀ {e}, (switched p keys).showsLink (Snapshot.ofPayload p) e = true ↔
    ∃ a b, (Snapshot.ofPayload p).node? e.source = some a ∧ (Snapshot.ofPayload p).node? e.target = some b ∧
      Even (keys.count a.entityType?) ∧ Even (keys.count b.entityType?)
  /-- Both its ends are shown then. -/
  ends : ∀ {e}, (switched p keys).showsLink (Snapshot.ofPayload p) e = true →
    ∃ a b, (Snapshot.ofPayload p).node? e.source = some a ∧ (Snapshot.ofPayload p).node? e.target = some b ∧
      (switched p keys).showsNode a = true ∧ (switched p keys).showsNode b = true
  /-- At first every node is shown, -/
  nodes : ∀ {n}, n ∈ (Snapshot.ofPayload p).nodes → (switched p []).showsNode n = true
  /-- and a link just if both its ends exist. -/
  links : ∀ {e}, (switched p []).showsLink (Snapshot.ofPayload p) e = (Snapshot.ofPayload p).isResolved e

/-- Nodes and links are shown by the number of times that their types were switched, whatever the graph and
whichever switches were used. -/
theorem shown_as_switched (p : Payload) (keys : List EntityKey) : Filtered p keys where
  node := showsNode_switched
  link := showsLink_switched
  ends := by
    intro e shown
    obtain ⟨a, b, source, target, evenly, evenly'⟩ := showsLink_switched.1 shown
    exact ⟨a, b, source, target, (showsNode_switched (List.mem_of_find?_eq_some source)).2 (.inr evenly),
      (showsNode_switched (List.mem_of_find?_eq_some target)).2 (.inr evenly')⟩
  nodes among := (showsNode_switched among).2 (.inr (by simp))
  links := by
    intro e
    rw [Bool.eq_iff_iff, showsLink_switched, Snapshot.isResolved, Snapshot.contains, Snapshot.contains,
      Bool.and_eq_true, Option.isSome_iff_exists, Option.isSome_iff_exists]
    simp

/-- A person, a node without a type and an organisation with the id of the person. One link leads from that id
to the node without a type, and one leads nowhere. -/
def mixed : Payload :=
  ⟨[⟨"a", [], [("entity_type", .string "person")]⟩, ⟨"b", [], []⟩,
    ⟨"a", [], [("entity_type", .string "org")]⟩], [⟨none, none, "a", "b"⟩, ⟨none, none, "a", "x"⟩], false⟩

/-- With the organisations and the untyped nodes switched off, only the organisation and the links are hidden. -/
theorem shown_as_switched_mixed : Filtered mixed [some "org", none] ∧
    ((Snapshot.ofPayload mixed).nodes.map (switched mixed [some "org", none]).showsNode) = [true, true, false] ∧
    ((Snapshot.ofPayload mixed).edges.map
      ((switched mixed [some "org", none]).showsLink (Snapshot.ofPayload mixed))) = [false, false] :=
  ⟨shown_as_switched mixed _, by decide +kernel, by decide +kernel⟩

end Interaction

end GraphViewer

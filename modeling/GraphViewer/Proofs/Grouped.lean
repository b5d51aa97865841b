import Mathlib.Data.List.Nodup
import Mathlib.Logic.Function.Basic
import GraphViewer.Proofs.ByteOrder
import GraphViewer.Proofs.Filter
/-
What stands in the groups of a snapshot. Each node adds its id at the end of one group, the group of its type,
which is made in its place if it is missing. So a group lists the ids of the nodes of its type in the order of
the snapshot, and all groups together list each node once. Ids need not be unique: an id that two nodes share
stands in the groups of both.
-/

namespace GraphViewer

/-- The order in which types are listed: no type first, and then the types by the bytes of their texts. -/
inductive EntityKey.Before : EntityKey → EntityKey → Prop where
  | untyped (name : String) : Before none (some name)
  | typed {one other : String} : Text.utf8 one < Text.utf8 other → Before (some one) (some other)

theorem EntityKey.before_of_lt {a b : EntityKey} (less : a.lt b = true) : Before a b := by
  cases b with
  | none => cases a <;> simp [lt] at less
  | some other =>
    cases a with
    | none => exact .untyped other
    | some one => exact .typed (Text.utf8_lt (by simpa [lt] using less))

/-! ## The type of a node -/

/-- The property that tells the type of a node is missing, empty or not a text. -/
def Node.Untyped (n : Node) : Prop :=
  ∀ name, Json.Members.get? n.properties "entity_type" = some (.string name) → name = ""

namespace Node

variable {n : Node}

theorem entityType_untyped (untyped : n.Untyped) : n.entityType? = none := by
  unfold entityType?
  split
  · exact if_pos (untyped _ ‹_›)
  · rfl

theorem entityType_typed {name : String} (text : Json.Members.get? n.properties "entity_type" = some (.string name))
    (named : name ≠ "") : n.entityType? = some name := by
  rw [entityType?, text]
  exact if_neg named

theorem entityType_ne_empty (n : Node) : n.entityType? ≠ some "" := by
  unfold entityType?
  split
  · split
    · nofun
    · rwa [ne_eq, Option.some_inj]
  · nofun

end Node

/-- The ids of the nodes of a type, in the order of the nodes. -/
def idsOf (nodes : List Node) (key : EntityKey) : List NodeId :=
  (nodes.filter (·.entityType? = key)).map Node.id

theorem mem_idsOf {nodes : List Node} {key : EntityKey} {id : NodeId} :
    id ∈ idsOf nodes key ↔ ∃ n ∈ nodes, n.entityType? = key ∧ n.id = id := by
  simp [idsOf, and_assoc]

/-- One more node adds its id at the end of the ids of its type. -/
theorem idsOf_concat (nodes : List Node) (n : Node) : idsOf (nodes ++ [n]) =
    Function.update (idsOf nodes) n.entityType? (idsOf nodes n.entityType? ++ [n.id]) := by
  funext key
  by_cases same : n.entityType? = key
  · subst same
    simp [idsOf]
  · simp [idsOf, same, Function.update_of_ne (Ne.symm same)]

namespace Groups

variable {key : EntityKey} {id : NodeId} {entries : List (EntityKey × List NodeId)}
  {f : EntityKey → List NodeId} {s : Snapshot} {n : Node}

/-! ## One more id -/

theorem ids_update {ids : List NodeId} (lists : ∀ e ∈ entries, e.2 = f e.1)
    (missing : key ∉ entries.map Prod.fst) : ∀ e ∈ entries, e.2 = Function.update f key ids e.1 := by
  intro e member
  rw [lists e member, Function.update_of_ne]
  rintro rfl
  exact missing (List.mem_map_of_mem member)

/-- The group of the key gets the id at its end, and the other groups stay. -/
theorem ids_addTo (ordered : InOrder (entries.map Prod.fst)) (lists : ∀ e ∈ entries, e.2 = f e.1)
    (missing : key ∉ entries.map Prod.fst → f key = []) :
    ∀ e ∈ addTo key id entries, e.2 = Function.update f key (f key ++ [id]) e.1 := by
  induction entries with
  | nil => simp [addTo, missing]
  | cons first rest ih =>
    obtain ⟨k, ids⟩ := first
    obtain ⟨here, lists'⟩ := List.forall_mem_cons.1 lists
    obtain rfl : ids = f k := here
    rw [addTo]
    split
    case isTrue below =>
      have new : key ∉ ((k, f k) :: rest).map Prod.fst :=
        (List.nodup_cons.1 (ordered.cons_cons below).nodup).1
      refine List.forall_mem_cons.2 ⟨?_, ids_update lists new⟩
      rw [Function.update_self, missing new, List.nil_append]
    case isFalse =>
      split
      case isTrue same =>
        subst same
        refine List.forall_mem_cons.2 ⟨?_, ids_update lists' (List.nodup_cons.1 ordered.nodup).1⟩
        rw [Function.update_self]
      case isFalse other =>
        refine List.forall_mem_cons.2 ⟨?_, ih ordered.tail lists' fun absent => missing ?_⟩
        · rw [Function.update_of_ne (Ne.symm other)]
        · rw [List.map_cons, List.mem_cons, not_or]
          exact ⟨other, absent⟩

theorem perm_addTo : ((addTo key id entries).flatMap Prod.snd).Perm (id :: entries.flatMap Prod.snd) := by
  induction entries with
  | nil => exact .refl _
  | cons first rest ih =>
    obtain ⟨k, ids⟩ := first
    rw [addTo]
    split
    · exact .refl _
    · split
      · simp
      · exact (ih.append_left ids).trans List.perm_middle

/-! ## All ids of a snapshot -/

/-- Each group lists the ids of the nodes of its type. -/
theorem ids_ofSnapshot (s : Snapshot) : ∀ e ∈ (ofSnapshot s).entries, e.2 = idsOf s.nodes e.1 := by
  obtain ⟨nodes, edges, truncated⟩ := s
  induction nodes using List.reverseRecOn with
  | nil => nofun
  | append_singleton nodes n ih =>
    have before := inOrder_ofSnapshot ⟨nodes, edges, truncated⟩
    have missing (absent : n.entityType? ∉ (ofSnapshot ⟨nodes, edges, truncated⟩).keys) :
        idsOf nodes n.entityType? = [] := by
      rw [List.eq_nil_iff_forall_not_mem]
      intro id member
      obtain ⟨m, among, same, _⟩ := mem_idsOf.1 member
      exact absent (mem_keys_ofSnapshot.2 ⟨m, among, same⟩)
    rw [ofSnapshot, List.foldl_append, idsOf_concat]
    exact ids_addTo before ih missing

theorem perm_ofSnapshot (s : Snapshot) :
    ((ofSnapshot s).entries.flatMap Prod.snd).Perm (s.nodes.map Node.id) := by
  obtain ⟨nodes, edges, truncated⟩ := s
  induction nodes using List.reverseRecOn with
  | nil => exact .refl _
  | append_singleton nodes n ih =>
    rw [ofSnapshot, List.foldl_append, List.map_append]
    exact perm_addTo.trans ((ih.cons n.id).trans (List.perm_append_singleton _ _).symm)

theorem mem_ofSnapshot {ids : List NodeId} : (key, ids) ∈ (ofSnapshot s).entries ↔
    (∃ n ∈ s.nodes, n.entityType? = key) ∧ ids = idsOf s.nodes key := by
  rw [← mem_keys_ofSnapshot]
  constructor
  · intro member
    exact ⟨List.mem_map_of_mem member, ids_ofSnapshot s _ member⟩
  · rintro ⟨known, rfl⟩
    obtain ⟨⟨k, ids⟩, member, rfl⟩ := List.mem_map.1 known
    exact ids_ofSnapshot s _ member ▸ member

/-- The id of a node stands in the group of its type. -/
theorem mem_group (among : n ∈ s.nodes) :
    ∃ ids, (n.entityType?, ids) ∈ (ofSnapshot s).entries ∧ n.id ∈ ids :=
  ⟨_, mem_ofSnapshot.2 ⟨⟨n, among, rfl⟩, rfl⟩, mem_idsOf.2 ⟨n, among, rfl, rfl⟩⟩

/-- If no two nodes share an id, then no other group has it. -/
theorem existsUnique_group (unique : (s.nodes.map Node.id).Nodup) (among : n ∈ s.nodes) :
    ∃! e, e ∈ (ofSnapshot s).entries ∧ n.id ∈ e.2 := by
  obtain ⟨ids, member, within⟩ := mem_group among
  refine ⟨(n.entityType?, ids), ⟨member, within⟩, ?_⟩
  rintro ⟨k, ids'⟩ ⟨member', within'⟩
  obtain ⟨_, rfl⟩ := mem_ofSnapshot.1 member
  obtain ⟨_, rfl⟩ := mem_ofSnapshot.1 member'
  obtain ⟨m, among', rfl, same⟩ := mem_idsOf.1 within'
  rw [List.inj_on_of_nodup_map unique among' among same]

/-- How the groups of a snapshot list its nodes. -/
structure ListNodes (g : Groups) (s : Snapshot) : Prop where
  /-- There is a group for each type that some node has, -/
  key : ∀ key, key ∈ g.keys ↔ ∃ n ∈ s.nodes, n.entityType? = key
  /-- with the ids of the nodes that have it, in the order of the snapshot, -/
  ids : ∀ key ids, (key, ids) ∈ g.entries → ids = (s.nodes.filter (·.entityType? = key)).map Node.id
  /-- and so at least with one. -/
  inhabited : ∀ key ids, (key, ids) ∈ g.entries → ids ≠ []
  /-- The groups together list the id of each node, as often as nodes have it. -/
  all : (g.entries.flatMap Prod.snd).Perm (s.nodes.map Node.id)
  /-- If no two nodes share an id, then each id stands in one group, and there once. -/
  one : (s.nodes.map Node.id).Nodup → ∀ n ∈ s.nodes,
    (∃! e, e ∈ g.entries ∧ n.id ∈ e.2) ∧ ∀ e ∈ g.entries, n.id ∈ e.2 → e.2.count n.id = 1
  /-- A node whose type is missing, empty or not a text stands among the untyped ones, -/
  untyped : ∀ n ∈ s.nodes, n.Untyped → ∃ ids, (none, ids) ∈ g.entries ∧ n.id ∈ ids
  /-- and one with a type among those of that type. -/
  typed : ∀ n ∈ s.nodes, ∀ name,
    Json.Members.get? n.properties "entity_type" = some (.string name) → name ≠ "" →
      ∃ ids, (some name, ids) ∈ g.entries ∧ n.id ∈ ids
  /-- No type is the empty text. -/
  named : some "" ∉ g.keys
  /-- The untyped nodes are listed first, and then the types by their bytes, each of them once. -/
  order : g.keys.Pairwise EntityKey.Before

theorem listNodes_ofSnapshot (s : Snapshot) : (ofSnapshot s).ListNodes s where
  key _ := mem_keys_ofSnapshot
  ids _ _ member := (mem_ofSnapshot.1 member).2
  inhabited key ids member := by
    obtain ⟨⟨n, among, same⟩, rfl⟩ := mem_ofSnapshot.1 member
    exact List.ne_nil_of_mem (mem_idsOf.2 ⟨n, among, same, rfl⟩)
  all := perm_ofSnapshot s
  one unique n among := by
    refine ⟨existsUnique_group unique among, fun e member within => List.count_eq_one_of_mem ?_ within⟩
    exact (List.nodup_flatMap.1 ((perm_ofSnapshot s).nodup_iff.2 unique)).1 e member
  untyped n among untyped := Node.entityType_untyped untyped ▸ mem_group among
  typed n among name text named := Node.entityType_typed text named ▸ mem_group among
  named known := by
    obtain ⟨n, _, empty⟩ := mem_keys_ofSnapshot.1 known
    exact n.entityType_ne_empty empty
  order := (inOrder_ofSnapshot s).imp EntityKey.before_of_lt

-- Two nodes share an id here, and the letter with the greater bytes comes last.
example :
    let typed (id : NodeId) (name : String) : Node := ⟨id, [], [("entity_type", .string name)], leastWeight⟩
    (ofSnapshot ⟨[typed "a" "äther", typed "b" "zebra", typed "a" "", typed "c" "äther"], [], false⟩).entries =
      [(none, ["a"]), (some "zebra", ["b"]), (some "äther", ["a", "c"])] := by
  decide +kernel

end Groups

end GraphViewer

import Mathlib.Data.List.Nodup
import GraphViewer.Interaction
/-
Keys of entity types in their order, each of them once. Such a list is settled by which keys stand in it. The
groups of a snapshot are in order, and so are the types that are switched on.
-/

namespace GraphViewer

namespace EntityKey

variable {a b c : EntityKey}

theorem lt_irrefl (a : EntityKey) : ¬ a.lt a = true := by
  cases a with
  | none => simp [lt]
  | some s => simp [lt]

theorem lt_trans (one : a.lt b = true) (other : b.lt c = true) : a.lt c = true := by
  cases c with
  | none => cases b <;> simp [lt] at other
  | some u =>
    cases a with
    | none => rfl
    | some s =>
      cases b with
      | none => simp [lt] at one
      | some t =>
        simp only [lt, decide_eq_true_eq] at one other ⊢
        exact String.lt_trans one other

theorem lt_of_not_lt (notBelow : ¬ a.lt b = true) (other : a ≠ b) : b.lt a = true := by
  cases b with
  | none =>
    cases a with
    | none => exact absurd rfl other
    | some s => rfl
  | some t =>
    cases a with
    | none => simp [lt] at notBelow
    | some s =>
      simp only [lt, decide_eq_true_eq] at notBelow ⊢
      exact Std.lt_of_le_of_ne (String.not_lt.1 notBelow) fun same => other (congrArg some same.symm)

end EntityKey

/-- Each key stands before those that are greater. -/
def InOrder (keys : List EntityKey) : Prop :=
  keys.Pairwise fun a b => a.lt b = true

namespace InOrder

variable {keys others : List EntityKey} {key : EntityKey}

theorem nodup (ordered : InOrder keys) : keys.Nodup := by
  refine ordered.imp fun {a b} below same => ?_
  rw [same] at below
  exact b.lt_irrefl below

/-- Two lists in order with the same keys are the same. -/
theorem ext (ordered : InOrder keys) (ordered' : InOrder others) (same : ∀ key, key ∈ keys ↔ key ∈ others) :
    keys = others := by
  refine List.Perm.eq_of_pairwise ?_ ordered ordered' ?_
  · intro a b _ _ below above
    exact absurd (EntityKey.lt_trans below above) a.lt_irrefl
  · exact (List.perm_ext_iff_of_nodup ordered.nodup ordered'.nodup).2 same

theorem cons (below : ∀ other ∈ keys, key.lt other = true) (ordered : InOrder keys) : InOrder (key :: keys) :=
  List.pairwise_cons.2 ⟨below, ordered⟩

/-- A key below the first one is below them all. -/
theorem cons_cons {first : EntityKey} (ordered : InOrder (first :: keys)) (below : key.lt first = true) :
    InOrder (key :: first :: keys) := by
  refine .cons ?_ ordered
  intro other member
  rcases List.mem_cons.1 member with rfl | later
  · exact below
  · exact EntityKey.lt_trans below ((List.pairwise_cons.1 ordered).1 other later)

end InOrder

/-! ## One more key -/

namespace Interaction

theorem mem_insertKey {key new : EntityKey} {keys : List EntityKey} :
    key ∈ insertKey new keys ↔ key = new ∨ key ∈ keys := by
  induction keys with
  | nil => simp [insertKey]
  | cons first rest ih =>
    rw [insertKey]
    split
    · simp
    · simp only [List.mem_cons, ih, or_left_comm]

theorem inOrder_insertKey {new : EntityKey} {keys : List EntityKey} (ordered : InOrder keys)
    (missing : new ∉ keys) : InOrder (insertKey new keys) := by
  induction keys with
  | nil => exact List.pairwise_singleton _ _
  | cons first rest ih =>
    obtain ⟨above, ordered'⟩ := List.pairwise_cons.1 ordered
    obtain ⟨other, missing'⟩ := not_or.1 (mt List.mem_cons.2 missing)
    rw [insertKey]
    split
    · exact ordered.cons_cons ‹_›
    · refine .cons ?_ (ih ordered' missing')
      intro key member
      rcases mem_insertKey.1 member with rfl | later
      · exact EntityKey.lt_of_not_lt ‹_› other
      · exact above key later

end Interaction

/-! ## The groups of a snapshot -/

namespace Groups

variable {key : EntityKey} {id : NodeId} {entries : List (EntityKey × List NodeId)}

theorem mem_keys_addTo {other : EntityKey} :
    other ∈ (addTo key id entries).map Prod.fst ↔ other = key ∨ other ∈ entries.map Prod.fst := by
  induction entries with
  | nil => simp [addTo]
  | cons first rest ih =>
    obtain ⟨k, ids⟩ := first
    rw [addTo]
    split
    · simp
    · split
      · rename_i same
        simp [same]
      · simp only [List.map_cons, List.mem_cons, ih, or_left_comm]

theorem inOrder_addTo (ordered : InOrder (entries.map Prod.fst)) :
    InOrder ((addTo key id entries).map Prod.fst) := by
  induction entries with
  | nil => exact List.pairwise_singleton _ _
  | cons first rest ih =>
    obtain ⟨k, ids⟩ := first
    obtain ⟨above, ordered'⟩ := List.pairwise_cons.1 ordered
    rw [addTo]
    split
    · exact ordered.cons_cons ‹_›
    · split
      · exact ordered
      · refine .cons ?_ (ih ordered')
        intro other member
        rcases mem_keys_addTo.1 member with rfl | later
        · exact EntityKey.lt_of_not_lt ‹_› ‹_›
        · exact above other later

/-- The groups of a snapshot stand in the order of their keys. -/
theorem inOrder_ofSnapshot (s : Snapshot) : InOrder (ofSnapshot s).keys := by
  have folded (nodes : List Node) (g : Groups) (ordered : InOrder g.keys) :
      InOrder (nodes.foldl add g).keys := by
    induction nodes generalizing g with
    | nil => exact ordered
    | cons n rest ih => exact ih (g.add n) (inOrder_addTo ordered)
  exact folded s.nodes empty List.Pairwise.nil

end Groups

end GraphViewer

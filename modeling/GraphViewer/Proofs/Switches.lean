import Mathlib.Data.Set.SymmDiff
import Mathlib.Order.ConditionallyCompleteLattice.Basic
import GraphViewer.Proofs.Aiming
import GraphViewer.Proofs.Keys
/-
Which entity types are switched on. The first groups that are not empty switch on all of theirs. From then on
only the switches count, and each of them by how often it was used: no selection, no hovering and no later
groups change anything, whether these are empty, bring new types or lack old ones.
-/

namespace GraphViewer

/-- The type that an operation switches on or off. -/
def Operation.toggled? : Operation → Option EntityKey
  | .toggleType key => some key
  | _ => none

/-- The groups that an operation takes over, unless they are empty. -/
def Operation.brought? : Operation → Option Groups
  | .adopt _ groups => if groups.isEmpty then none else some groups
  | _ => none

/-- The operation is about the focus: it selects, clicks or follows the pointer. -/
def Operation.focuses : Operation → Bool
  | .select _ | .click _ | .hoverNode _ | .hoverLink _ => true
  | .toggleType _ | .adopt _ _ => false

namespace Interaction

variable {x : Interaction} {s : Snapshot} {d : Deed} {deeds : List Deed} {key other : EntityKey}

/-- The types that are switched on or off in the course of some operations. -/
def toggled (deeds : List Deed) : List EntityKey :=
  deeds.filterMap (·.operation.toggled?)

/-- The groups that are taken over in the course of some operations and are not empty. -/
def brought (deeds : List Deed) : List Groups :=
  deeds.filterMap (·.operation.brought?)

/-! ## One switch -/

theorem mem_toggleType :
    other ∈ (x.toggleType key).activeTypes ↔ Xor (other ∈ x.activeTypes) (other = key) := by
  rw [toggleType]
  by_cases active : x.activeTypes.contains key = true
  · have on : key ∈ x.activeTypes := List.contains_iff_mem.1 active
    rw [if_pos active, List.mem_filter]
    by_cases same : other = key
    · simp [same, on]
    · simp [xor_def, same]
  · have off : key ∉ x.activeTypes := mt List.contains_iff_mem.2 active
    rw [if_neg active, mem_insertKey]
    by_cases same : other = key
    · simp [xor_def, same, off]
    · simp [xor_def, same]

theorem inOrder_toggleType (ordered : InOrder x.activeTypes) (key : EntityKey) :
    InOrder (x.toggleType key).activeTypes := by
  rw [toggleType]
  by_cases active : x.activeTypes.contains key = true
  · rw [if_pos active]
    exact ordered.filter _
  · rw [if_neg active]
    exact inOrder_insertKey ordered (mt List.contains_iff_mem.2 active)

/-- Two switches may change places. -/
theorem mem_toggleType_comm (a b : EntityKey) :
    key ∈ ((x.toggleType a).toggleType b).activeTypes ↔ key ∈ ((x.toggleType b).toggleType a).activeTypes := by
  simp only [mem_toggleType]
  grind

theorem toggleType_comm (ordered : InOrder x.activeTypes) (a b : EntityKey) :
    (x.toggleType a).toggleType b = (x.toggleType b).toggleType a := by
  have same : ((x.toggleType a).toggleType b).activeTypes = ((x.toggleType b).toggleType a).activeTypes :=
    InOrder.ext (inOrder_toggleType (inOrder_toggleType ordered a) b)
      (inOrder_toggleType (inOrder_toggleType ordered b) a) fun _ => mem_toggleType_comm a b
  exact congrArg (fun types => { x with activeTypes := types }) same

/-! ## A switch and another operation -/

theorem select_toggleType (x : Interaction) (s : Snapshot) (key : EntityKey) (target : Option NodeId) :
    (x.toggleType key).select s target = ((x.select s target).1.toggleType key, (x.select s target).2) := by
  cases target with
  | none =>
    have same := highlight_toggleType (x := { x with focus := .none, hoveredLink := none }) (s := s) key
    exact congrArg (·, Aim.origin) same
  | some id =>
    have same := highlight_toggleType (x := { x with focus := .active id, hoveredLink := none }) (s := s) key
    exact congrArg (·, Aim.node id) same

theorem hover_toggleType (x : Interaction) (s : Snapshot) (key : EntityKey) (target : Hover) :
    (x.toggleType key).hover s target = (x.hover s target).toggleType key := by
  by_cases active : ∃ id, x.focus = .active id
  · obtain ⟨id, focus⟩ := active
    have focus' : (x.toggleType key).focus = .active id := focus
    rw [hover_of_active focus, hover_of_active focus']
  · have inactive : ∀ id, x.focus ≠ .active id := fun id focus => active ⟨id, focus⟩
    have inactive' : ∀ id, (x.toggleType key).focus ≠ .active id := inactive
    have sameFocus : (x.toggleType key).focus = x.focus := rfl
    have sameLink : (x.toggleType key).hoveredLink = x.hoveredLink := rfl
    rw [hover_of_inactive inactive, hover_of_inactive inactive', sameFocus, sameLink]
    split
    · rfl
    · exact highlight_toggleType (x := { x with focus := _, hoveredLink := _ }) key

/-- A switch and an operation on the focus may change places. -/
theorem perform_toggleType (focuses : d.operation.focuses = true) (key : EntityKey) :
    (x.toggleType key).perform d = ((x.perform d).1.toggleType key, (x.perform d).2) := by
  obtain ⟨s, o⟩ := d
  cases o with
  | select target =>
    have same := x.select_toggleType s key target
    exact congrArg (fun result => (result.1, some result.2)) same
  | click id =>
    have same := x.select_toggleType s key (if x.activeNode? = some id then none else some id)
    exact congrArg (fun result => (result.1, some result.2)) same
  | hoverNode id => exact congrArg (·, none) (x.hover_toggleType s key _)
  | hoverLink edge => exact congrArg (·, none) (x.hover_toggleType s key _)
  | toggleType other => cases focuses
  | adopt snapshot groups => cases focuses

/-! ## What an operation does to the types -/

theorem adopt_types (x : Interaction) (s : Snapshot) (g : Groups) :
    (x.adopt s g).1.activeTypes = (if !x.defaultsApplied && !g.isEmpty then g.keys else x.activeTypes) ∧
      (x.adopt s g).1.defaultsApplied = (x.defaultsApplied || (!x.defaultsApplied && !g.isEmpty)) := by
  rw [adopt, highlight_activeTypes, highlight_defaultsApplied]
  exact ⟨rfl, rfl⟩

theorem select_types (x : Interaction) (s : Snapshot) (target : Option NodeId) :
    (x.select s target).1.activeTypes = x.activeTypes ∧
      (x.select s target).1.defaultsApplied = x.defaultsApplied := by
  cases target <;> exact ⟨highlight_activeTypes, highlight_defaultsApplied⟩

theorem perform_toggled (toggled : d.operation.toggled? = some key) : (x.perform d).1 = x.toggleType key := by
  obtain ⟨s, o⟩ := d
  cases o with
  | toggleType other =>
    cases toggled
    rfl
  | select target => cases toggled
  | click id => cases toggled
  | hoverNode id => cases toggled
  | hoverLink edge => cases toggled
  | adopt snapshot groups => cases toggled

theorem perform_focuses (focuses : d.operation.focuses = true) :
    (x.perform d).1.activeTypes = x.activeTypes := by
  obtain ⟨s, o⟩ := d
  cases o with
  | select target => exact (x.select_types s target).1
  | click id => exact (x.select_types s _).1
  | hoverNode id => exact x.hover_activeTypes s _
  | hoverLink edge => exact x.hover_activeTypes s _
  | toggleType other => cases focuses
  | adopt snapshot groups => cases focuses

/-- The first groups that are not empty switch their types on. -/
theorem perform_first {groups : Groups} (unset : x.defaultsApplied = false)
    (brought : d.operation.brought? = some groups) : (x.perform d).1.activeTypes = groups.keys := by
  obtain ⟨s, o⟩ := d
  cases o with
  | adopt snapshot g =>
    obtain ⟨present, rfl⟩ : g.isEmpty = false ∧ g = groups := by
      simpa [Operation.brought?] using brought
    have types := (x.adopt_types snapshot g).1
    rw [unset, present] at types
    exact types
  | select target => cases brought
  | click id => cases brought
  | hoverNode id => cases brought
  | hoverLink edge => cases brought
  | toggleType other => cases brought

/-- Apart from these, only a switch changes the types. -/
theorem perform_untoggled (untoggled : d.operation.toggled? = none)
    (settled : x.defaultsApplied = true ∨ d.operation.brought? = none) :
    (x.perform d).1.activeTypes = x.activeTypes := by
  obtain ⟨s, o⟩ := d
  cases o with
  | adopt snapshot g =>
    have types := (x.adopt_types snapshot g).1
    have late : (!x.defaultsApplied && !g.isEmpty) = false := by
      rcases settled with set | unbrought
      · simp [set]
      · have nothing : g.isEmpty = true := by simpa [Operation.brought?] using unbrought
        simp [nothing]
    rw [late] at types
    exact types
  | select target => exact perform_focuses rfl
  | click id => exact perform_focuses rfl
  | hoverNode id => exact perform_focuses rfl
  | hoverLink edge => exact perform_focuses rfl
  | toggleType other => cases untoggled

theorem perform_defaultsApplied (x : Interaction) (d : Deed) :
    (x.perform d).1.defaultsApplied = (x.defaultsApplied || d.operation.brought?.isSome) := by
  obtain ⟨s, o⟩ := d
  cases o with
  | adopt snapshot g =>
    refine (x.adopt_types snapshot g).2.trans ?_
    cases set : x.defaultsApplied <;> cases nothing : g.isEmpty <;> simp [Operation.brought?, nothing]
  | select target => exact (x.select_types s target).2.trans (Bool.or_false _).symm
  | click id => exact (x.select_types s _).2.trans (Bool.or_false _).symm
  | hoverNode id => exact (x.hover_defaultsApplied s _).trans (Bool.or_false _).symm
  | hoverLink edge => exact (x.hover_defaultsApplied s _).trans (Bool.or_false _).symm
  | toggleType other => exact (Bool.or_false _).symm

/-! ## Runs -/

theorem after_append (x : Interaction) (earlier later : List Deed) :
    x.after (earlier ++ later) = (x.after earlier).after later :=
  List.foldl_append

theorem after_defaultsApplied (x : Interaction) (deeds : List Deed) :
    (x.after deeds).defaultsApplied = (x.defaultsApplied || !(brought deeds).isEmpty) := by
  induction deeds generalizing x with
  | nil => exact (Bool.or_false _).symm
  | cons d rest ih =>
    show ((x.perform d).1.after rest).defaultsApplied = _
    rw [ih, perform_defaultsApplied, Bool.or_assoc, brought, brought, List.filterMap_cons]
    cases d.operation.brought? <;> rfl

/-- One more use of a switch turns an even number of uses into an odd one. -/
theorem xor_odd_count_cons {on : Prop} {keys : List EntityKey} :
    Xor (Xor on (key = other)) (Odd (keys.count key)) ↔ Xor on (Odd ((other :: keys).count key)) := by
  rw [List.count_cons]
  by_cases same : other = key
  · simp only [same, beq_self_eq_true, if_true, Nat.odd_add_one]
    grind
  · have distinct : ¬ key = other := Ne.symm same
    simp [xor_def, same, distinct]

/-- Once the types are settled, exactly those change that are switched an odd number of times. -/
theorem mem_after (settled : x.defaultsApplied = true) (deeds : List Deed) (key : EntityKey) :
    key ∈ (x.after deeds).activeTypes ↔
      Xor (key ∈ x.activeTypes) (Odd ((toggled deeds).count key)) := by
  induction deeds generalizing x with
  | nil => simp [after, toggled, xor_def]
  | cons d rest ih =>
    show key ∈ ((x.perform d).1.after rest).activeTypes ↔ _
    have still : (x.perform d).1.defaultsApplied = true := by
      rw [perform_defaultsApplied, settled, Bool.true_or]
    cases isToggle : d.operation.toggled? with
    | none =>
      have same : toggled (d :: rest) = toggled rest := List.filterMap_cons_none isToggle
      rw [ih still, perform_untoggled isToggle (.inl settled), same]
    | some other =>
      have more : toggled (d :: rest) = other :: toggled rest := List.filterMap_cons_some isToggle
      rw [ih still, perform_toggled isToggle, mem_toggleType, more, xor_odd_count_cons]

/-- The types stay in order as long as the groups that are taken over are. -/
theorem inOrder_after (ordered : InOrder x.activeTypes)
    (grouped : ∀ groups ∈ brought deeds, InOrder groups.keys) : InOrder (x.after deeds).activeTypes := by
  induction deeds generalizing x with
  | nil => exact ordered
  | cons d rest ih =>
    have later : ∀ groups ∈ brought rest, InOrder groups.keys := fun groups member =>
      grouped groups (((List.sublist_cons_self d rest).filterMap _).subset member)
    refine ih (x := (x.perform d).1) ?_ later
    cases isToggle : d.operation.toggled? with
    | some key =>
      rw [perform_toggled isToggle]
      exact inOrder_toggleType ordered key
    | none =>
      cases set : x.defaultsApplied with
      | true =>
        rw [perform_untoggled isToggle (.inl set)]
        exact ordered
      | false =>
        cases brought : d.operation.brought? with
        | none =>
          rw [perform_untoggled isToggle (.inr brought)]
          exact ordered
        | some groups =>
          rw [perform_first set brought]
          exact grouped groups (List.mem_filterMap.2 ⟨d, List.mem_cons_self, brought⟩)

/-- What a run of operations makes of the types that are switched on. -/
structure TypesSwitched (deeds : List Deed) : Prop where
  /-- Since the first groups that are not empty, their types and those that were switched an odd number of
  times are on, unless they are both. -/
  types : ∀ {earlier later : List Deed} {d : Deed} {groups : Groups}, deeds = earlier ++ d :: later →
    brought earlier = [] → d.operation.brought? = some groups →
    {key | key ∈ (initial.after deeds).activeTypes} =
      symmDiff {key | key ∈ groups.keys} {key | Odd ((toggled later).count key)}
  /-- Any two switches may change places: the same types are on then, -/
  switches : ∀ a b key, key ∈ (((initial.after deeds).toggleType a).toggleType b).activeTypes ↔
    key ∈ (((initial.after deeds).toggleType b).toggleType a).activeTypes
  /-- and in the same order, if groups come in the order of their keys, as those of a snapshot do. -/
  order : (∀ groups ∈ brought deeds, InOrder groups.keys) → ∀ a b,
    ((initial.after deeds).toggleType a).toggleType b = ((initial.after deeds).toggleType b).toggleType a
  /-- So may a switch and an operation on the focus, with the camera sent the same way. -/
  focus : ∀ {d : Deed}, d.operation.focuses = true → ∀ key,
    ((initial.after deeds).toggleType key).perform d =
      (((initial.after deeds).perform d).1.toggleType key, ((initial.after deeds).perform d).2)
  /-- An operation on the focus leaves the types as they are, -/
  unfocused : ∀ {d : Deed}, d.operation.focuses = true →
    ((initial.after deeds).perform d).1.activeTypes = (initial.after deeds).activeTypes
  /-- and so do any groups after the first ones. -/
  later : ∀ {d : Deed} {snapshot : Snapshot} {groups : Groups}, d.operation = .adopt snapshot groups →
    brought deeds ≠ [] →
    ((initial.after deeds).perform d).1.activeTypes = (initial.after deeds).activeTypes

/-- In every run the first groups that are not empty settle which types are switched on, and after them only
the switches count. -/
theorem types_switched (deeds : List Deed) : TypesSwitched deeds where
  types := by
    intro earlier later d groups split nothing first
    have unset : (initial.after earlier).defaultsApplied = false := by
      rw [after_defaultsApplied, nothing]
      rfl
    have settled : ((initial.after earlier).perform d).1.defaultsApplied = true := by
      rw [perform_defaultsApplied, first, Option.isSome_some, Bool.or_true]
    have parts : initial.after deeds = ((initial.after earlier).perform d).1.after later := by
      rw [split, after_append]
      rfl
    ext key
    rw [Set.mem_symmDiff, Set.mem_ofPred_eq, parts, mem_after settled, perform_first unset first]
    rfl
  switches a b key := mem_toggleType_comm a b
  order grouped := toggleType_comm (inOrder_after (x := initial) List.Pairwise.nil grouped)
  focus focuses key := perform_toggleType focuses key
  unfocused focuses := perform_focuses focuses
  later := by
    intro d snapshot groups adopts already
    have settled : (initial.after deeds).defaultsApplied = true := by
      rw [after_defaultsApplied]
      simpa [initial] using already
    refine perform_untoggled ?_ (.inl settled)
    rw [adopts]
    rfl

/-- A person and an organisation. -/
def personAndOrg : Snapshot :=
  ⟨[⟨"p", [], [("entity_type", .string "person")], 0⟩, ⟨"o", [], [("entity_type", .string "org")], 0⟩],
    [], false⟩

/-- One of the two types is switched off, and then the graph is read as empty and once more as it was. -/
def switchedOff : List Deed :=
  [⟨.empty, .toggleType none⟩, ⟨.empty, .adopt .empty .empty⟩,
    ⟨.empty, .adopt personAndOrg (.ofSnapshot personAndOrg)⟩, ⟨personAndOrg, .toggleType (some "org")⟩,
    ⟨personAndOrg, .click "p"⟩, ⟨personAndOrg, .adopt .empty .empty⟩,
    ⟨.empty, .adopt personAndOrg (.ofSnapshot personAndOrg)⟩]

/-- It is still off then. -/
theorem types_switched_off : TypesSwitched switchedOff ∧
    (∀ groups ∈ brought switchedOff, InOrder groups.keys) ∧
    (initial.after switchedOff).activeTypes = [some "person"] := by
  have twice : brought switchedOff = [.ofSnapshot personAndOrg, .ofSnapshot personAndOrg] := by decide +kernel
  refine ⟨types_switched switchedOff, ?_, by decide +kernel⟩
  intro groups member
  obtain rfl : groups = .ofSnapshot personAndOrg := by simpa [twice] using member
  exact Groups.inOrder_ofSnapshot personAndOrg

end Interaction

end GraphViewer

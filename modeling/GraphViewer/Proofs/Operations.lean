import GraphViewer.Proofs.Highlights
/-
An interaction by itself, under any operations in any order, where every operation looks at the snapshot that
was taken over last. Hovering is a bystander: whether the pointer is followed or not makes no difference to
what is active, to the types that are switched on, to where the camera is sent and, while a node is active,
to what is highlighted.
-/

namespace GraphViewer

/-- What can be done to an interaction. -/
inductive Operation where
  | select (id : Option NodeId)
  | click (id : NodeId)
  | hoverNode (id : Option NodeId)
  | hoverLink (edge : Option EdgeIndex)
  | toggleType (key : EntityKey)
  | adopt (snapshot : Snapshot) (groups : Groups)

/-- Only the pointer is followed. -/
def Operation.hovers : Operation → Bool
  | .hoverNode _ | .hoverLink _ => true
  | _ => false

/-- An interaction with the snapshot that it took over last. -/
structure Attention where
  snapshot : Snapshot
  interaction : Interaction

namespace Attention

/-- Carries an operation out, and says where the camera goes if it is sent somewhere. -/
def perform (a : Attention) : Operation → Attention × Option Aim
  | .select id =>
    let (x, aim) := a.interaction.select a.snapshot id
    ({ a with interaction := x }, some aim)
  | .click id =>
    let (x, aim) := a.interaction.click a.snapshot id
    ({ a with interaction := x }, some aim)
  | .hoverNode id =>
    ({ a with interaction := a.interaction.hover a.snapshot (Interaction.Hover.ofNode? id) }, none)
  | .hoverLink edge =>
    ({ a with interaction := a.interaction.hover a.snapshot (Interaction.Hover.ofLink? edge) }, none)
  | .toggleType key => ({ a with interaction := a.interaction.toggleType key }, none)
  | .adopt snapshot groups =>
    let (x, aim) := a.interaction.adopt snapshot groups
    (⟨snapshot, x⟩, aim)

/-- What has become of it after some operations. -/
def after (a : Attention) (operations : List Operation) : Attention :=
  operations.foldl (fun a o => (a.perform o).1) a

/-- Where the camera is sent in the course of some operations. -/
def aims (a : Attention) : List Operation → List Aim
  | [] => []
  | o :: rest => (a.perform o).2.toList ++ aims (a.perform o).1 rest

end Attention

/-! ## The same but for the pointer -/

namespace Interaction

/-- Both have the same node active, the same types switched on and, while a node is active, the same
highlights. -/
structure SameBut (x y : Interaction) : Prop where
  types : x.activeTypes = y.activeTypes
  defaults : x.defaultsApplied = y.defaultsApplied
  active : x.activeNode? = y.activeNode?
  highlights : x.activeNode? ≠ none →
    x.highlightedNodes = y.highlightedNodes ∧ x.highlightedLinks = y.highlightedLinks

variable {x y : Interaction} {s : Snapshot}

@[simp] theorem highlight_activeNode? : (x.highlight s).activeNode? = x.activeNode? := by
  rw [activeNode?, activeNode?, highlight_focus]

@[simp] theorem highlight_activeTypes : (x.highlight s).activeTypes = x.activeTypes := by
  unfold highlight
  split <;> rfl

@[simp] theorem highlight_defaultsApplied : (x.highlight s).defaultsApplied = x.defaultsApplied := by
  unfold highlight
  split <;> rfl

theorem SameBut.refl (x : Interaction) : SameBut x x :=
  ⟨rfl, rfl, rfl, fun _ => ⟨rfl, rfl⟩⟩

/-- What an active node highlights does not depend on what was in focus before. -/
theorem SameBut.highlight (types : x.activeTypes = y.activeTypes)
    (defaults : x.defaultsApplied = y.defaultsApplied) (active : x.activeNode? = y.activeNode?) :
    SameBut (x.highlight s) (y.highlight s) where
  types := by simpa using types
  defaults := by simpa using defaults
  active := by simpa using active
  highlights := by
    intro present
    obtain ⟨id, isActive⟩ := Option.ne_none_iff_exists'.1 (highlight_activeNode? ▸ present)
    have focus := activeNode?_eq_some_iff.1 isActive
    have other := activeNode?_eq_some_iff.1 (active.symm.trans isActive)
    simp [Interaction.highlight, focus, other, Focus.node?]

theorem SameBut.select (same : SameBut x y) (target : Option NodeId) :
    SameBut (x.select s target).1 (y.select s target).1 ∧
      (x.select s target).2 = (y.select s target).2 := by
  cases target with
  | none =>
    have next := SameBut.highlight (x := { x with focus := .none, hoveredLink := none })
      (y := { y with focus := .none, hoveredLink := none }) (s := s) same.types same.defaults rfl
    exact ⟨next, rfl⟩
  | some id =>
    have next := SameBut.highlight (x := { x with focus := .active id, hoveredLink := none })
      (y := { y with focus := .active id, hoveredLink := none }) (s := s) same.types same.defaults rfl
    exact ⟨next, rfl⟩

theorem SameBut.click (same : SameBut x y) (id : NodeId) :
    SameBut (x.click s id).1 (y.click s id).1 ∧ (x.click s id).2 = (y.click s id).2 := by
  rw [Interaction.click, Interaction.click, same.active]
  exact same.select _

theorem SameBut.toggleType (same : SameBut x y) (key : EntityKey) :
    SameBut (x.toggleType key) (y.toggleType key) := by
  refine ⟨?_, same.defaults, same.active, same.highlights⟩
  rw [Interaction.toggleType, Interaction.toggleType, same.types]

/-- Only an active node moves the camera when a new snapshot lacks it. -/
theorem keepFocus_of_inactive {focus : Focus} (inactive : ∀ id, focus ≠ .active id) :
    (∀ id, (keepFocus s focus).1 ≠ .active id) ∧ (keepFocus s focus).2 = none := by
  cases focus with
  | none => simp [keepFocus]
  | active id => exact absurd rfl (inactive id)
  | hovered id =>
    rw [keepFocus]
    split <;> simp

theorem SameBut.adopt (same : SameBut x y) (g : Groups) :
    SameBut (x.adopt s g).1 (y.adopt s g).1 ∧ (x.adopt s g).2 = (y.adopt s g).2 := by
  rw [Interaction.adopt, Interaction.adopt, same.types, same.defaults]
  cases isActive : x.activeNode? with
  | none =>
    -- the focus may differ now, but it is no active node on either side and stays none
    obtain ⟨left, quiet⟩ := keepFocus_of_inactive (s := s) (inactive_iff.1 isActive)
    obtain ⟨right, quiet'⟩ := keepFocus_of_inactive (s := s) (inactive_iff.1 (same.active.symm.trans isActive))
    refine ⟨.highlight rfl rfl ?_, quiet.trans quiet'.symm⟩
    exact (inactive_iff.2 left).trans (inactive_iff.2 right).symm
  | some id =>
    have focus := activeNode?_eq_some_iff.1 isActive
    have other := activeNode?_eq_some_iff.1 (same.active.symm.trans isActive)
    rw [focus, other]
    exact ⟨.highlight rfl rfl rfl, rfl⟩

@[simp] theorem hover_activeTypes (x : Interaction) (s : Snapshot) (target : Hover) :
    (x.hover s target).activeTypes = x.activeTypes := by
  rcases x.hover_cases s target with same | ⟨_, led⟩
  · rw [same]
  · rw [led, highlight_activeTypes]

@[simp] theorem hover_defaultsApplied (x : Interaction) (s : Snapshot) (target : Hover) :
    (x.hover s target).defaultsApplied = x.defaultsApplied := by
  rcases x.hover_cases s target with same | ⟨_, led⟩
  · rw [same]
  · rw [led, highlight_defaultsApplied]

/-- Following the pointer changes nothing but what is hovered. -/
theorem SameBut.hover (same : SameBut x y) (target : Hover) : SameBut (x.hover s target) y where
  types := by simpa using same.types
  defaults := by simpa using same.defaults
  active := (hover_activeNode? x s target).trans same.active
  highlights := by
    intro present
    rw [hover_activeNode?] at present
    obtain ⟨id, isActive⟩ := Option.ne_none_iff_exists'.1 present
    rw [hover_of_active (activeNode?_eq_some_iff.1 isActive)]
    exact same.highlights present

end Interaction

/-! ## Runs with and without the pointer -/

namespace Attention

/-- Both look at the same snapshot, and are the same but for the pointer. -/
structure SameBut (a b : Attention) : Prop where
  snapshot : a.snapshot = b.snapshot
  interaction : a.interaction.SameBut b.interaction

variable {a b : Attention} {o : Operation}

theorem SameBut.perform (same : SameBut a b) (other : o.hovers = false) :
    SameBut (a.perform o).1 (b.perform o).1 ∧ (a.perform o).2 = (b.perform o).2 := by
  obtain ⟨s, x⟩ := a
  obtain ⟨s', y⟩ := b
  obtain ⟨rfl, same⟩ := same
  cases o with
  | select id =>
    obtain ⟨next, aim⟩ := same.select (s := s) id
    exact ⟨⟨rfl, next⟩, congrArg some aim⟩
  | click id =>
    obtain ⟨next, aim⟩ := same.click (s := s) id
    exact ⟨⟨rfl, next⟩, congrArg some aim⟩
  | toggleType key => exact ⟨⟨rfl, same.toggleType key⟩, rfl⟩
  | adopt snapshot groups =>
    obtain ⟨next, aim⟩ := same.adopt (s := snapshot) groups
    exact ⟨⟨rfl, next⟩, aim⟩
  | hoverNode id => cases other
  | hoverLink edge => cases other

theorem SameBut.follow (same : SameBut a b) (hovers : o.hovers = true) :
    SameBut (a.perform o).1 b ∧ (a.perform o).2 = none := by
  cases o with
  | hoverNode id => exact ⟨⟨same.snapshot, same.interaction.hover _⟩, rfl⟩
  | hoverLink edge => exact ⟨⟨same.snapshot, same.interaction.hover _⟩, rfl⟩
  | select id => cases hovers
  | click id => cases hovers
  | toggleType key => cases hovers
  | adopt snapshot groups => cases hovers

/-- One run follows the pointer and the other one does not. -/
theorem SameBut.run (same : SameBut a b) (operations : List Operation) :
    SameBut (a.after operations) (b.after (operations.filter (!·.hovers))) ∧
      a.aims operations = b.aims (operations.filter (!·.hovers)) := by
  induction operations generalizing a b with
  | nil => exact ⟨same, rfl⟩
  | cons o rest ih =>
    cases hovers : o.hovers with
    | true =>
      obtain ⟨next, quiet⟩ := same.follow hovers
      obtain ⟨last, aims⟩ := ih next
      simp only [List.filter_cons, hovers, Attention.aims, quiet]
      exact ⟨last, aims⟩
    | false =>
      obtain ⟨next, aim⟩ := same.perform hovers
      obtain ⟨last, aims⟩ := ih next
      simp only [List.filter_cons, hovers, Attention.aims, aim, aims]
      exact ⟨last, rfl⟩

/-- Without its hovering a run sends the camera the same ways, and at every point of it the same node is
active, the same types are switched on and, while a node is active, the same is highlighted. -/
theorem hovering_is_bystander (a : Attention) (operations : List Operation) :
    a.aims operations = a.aims (operations.filter (!·.hovers)) ∧
    ∀ n, (a.after (operations.take n)).interaction.SameBut
      (a.after ((operations.take n).filter (!·.hovers))).interaction := by
  have same : SameBut a a := ⟨rfl, .refl a.interaction⟩
  exact ⟨(same.run operations).2, fun n => (same.run (operations.take n)).1.interaction⟩

end Attention

end GraphViewer

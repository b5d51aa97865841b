import Mathlib.Data.List.DropRight
import Mathlib.Algebra.Ring.Parity
import GraphViewer.Proofs.Operations
/-
Where the camera is sent. Any operations are carried out in any order here, and each looks at whatever snapshot
it is given. The camera is sent somewhere exactly by the operations that select, and by a new snapshot that
lacks the active node; it is always sent to the node that is active then, or to the origin if none is. So the
last aim of a run tells which node is active. Of clicks alone, those at the end that go to the same node
decide: a click on the active node takes back the one before.
-/

namespace GraphViewer

/-- An operation and the snapshot that it looks at. -/
structure Deed where
  snapshot : Snapshot
  operation : Operation

/-- The node that an operation clicks on. -/
def Operation.clicked? : Operation → Option NodeId
  | .click id => some id
  | _ => none

/-- Only clicks on nodes, the pointer and the switches of the types. -/
def Operation.isPlain : Operation → Bool
  | .click _ | .hoverNode _ | .hoverLink _ | .toggleType _ => true
  | .select _ | .adopt _ _ => false

/-- Where the camera looks while a node is active, or while none is. -/
def Aim.on : Option NodeId → Aim
  | some id => .node id
  | none => .origin

namespace Interaction

variable {x : Interaction} {s : Snapshot} {d : Deed} {deeds : List Deed} {id : NodeId}

/-- Carries an operation out, and says where the camera goes if it is sent somewhere. -/
def perform (x : Interaction) (d : Deed) : Interaction × Option Aim :=
  let (a, aim) := (⟨d.snapshot, x⟩ : Attention).perform d.operation
  (a.interaction, aim)

/-- What has become of it after some operations. -/
def after (x : Interaction) (deeds : List Deed) : Interaction :=
  deeds.foldl (fun x d => (x.perform d).1) x

/-- Where the camera is sent in the course of some operations. -/
def aims (x : Interaction) : List Deed → List Aim
  | [] => []
  | d :: rest => (x.perform d).2.toList ++ aims (x.perform d).1 rest

/-! ## One operation -/

theorem select_activeNode? (x : Interaction) (s : Snapshot) (target : Option NodeId) :
    (x.select s target).1.activeNode? = target := by
  cases target with
  | none =>
    rw [select, highlight_activeNode?]
    rfl
  | some id =>
    rw [select, highlight_activeNode?]
    rfl

theorem select_aim (x : Interaction) (s : Snapshot) (target : Option NodeId) :
    (x.select s target).2 = .on target := by
  cases target <;> rfl

theorem click_activeNode? (x : Interaction) (s : Snapshot) (id : NodeId) :
    (x.click s id).1.activeNode? = if x.activeNode? = some id then none else some id :=
  select_activeNode? x s _

/-- A new snapshot drops an active node that it lacks, with the camera sent to the origin, and otherwise
leaves the active node and the camera alone. -/
theorem adopt_cases (x : Interaction) (s : Snapshot) (g : Groups) :
    ((∃ id, x.activeNode? = some id ∧ s.contains id = false) ∧
      (x.adopt s g).1.activeNode? = none ∧ (x.adopt s g).2 = some .origin) ∨
    ((¬ ∃ id, x.activeNode? = some id ∧ s.contains id = false) ∧
      (x.adopt s g).1.activeNode? = x.activeNode? ∧ (x.adopt s g).2 = none) := by
  rw [adopt, highlight_activeNode?]
  cases isActive : x.activeNode? with
  | none =>
    obtain ⟨inactive, quiet⟩ := keepFocus_of_inactive (s := s) (inactive_iff.1 isActive)
    exact .inr ⟨by simp, inactive_iff.2 inactive, quiet⟩
  | some id =>
    rw [activeNode?_eq_some_iff.1 isActive]
    cases contained : s.contains id with
    | true => exact .inr ⟨by simp [contained], by simp [keepFocus, contained, activeNode?]⟩
    | false => exact .inl ⟨⟨id, rfl, contained⟩, by simp [keepFocus, contained, activeNode?]⟩

/-- An operation leaves the active node and the camera alone, or sends the camera to what is active then. -/
theorem perform_cases (x : Interaction) (d : Deed) :
    ((x.perform d).1.activeNode? = x.activeNode? ∧ (x.perform d).2 = none) ∨
      (x.perform d).2 = some (.on (x.perform d).1.activeNode?) := by
  obtain ⟨s, o⟩ := d
  cases o with
  | select target =>
    refine .inr ?_
    show some (x.select s target).2 = some (.on (x.select s target).1.activeNode?)
    rw [select_activeNode?, select_aim]
  | click id =>
    refine .inr ?_
    show some (x.select s _).2 = some (.on (x.select s _).1.activeNode?)
    rw [select_activeNode?, select_aim]
  | hoverNode id => exact .inl ⟨hover_activeNode? x s _, rfl⟩
  | hoverLink edge => exact .inl ⟨hover_activeNode? x s _, rfl⟩
  | toggleType key => exact .inl ⟨rfl, rfl⟩
  | adopt snapshot groups =>
    rcases x.adopt_cases snapshot groups with ⟨_, dropped, aim⟩ | ⟨_, kept, quiet⟩
    · refine .inr ?_
      show (x.adopt snapshot groups).2 = some (.on (x.adopt snapshot groups).1.activeNode?)
      rw [dropped, aim]
      rfl
    · exact .inl ⟨kept, quiet⟩

/-- What an operation does to the active node and to the camera. -/
structure Steers (x : Interaction) (d : Deed) : Prop where
  /-- If it changes the active node it sends the camera somewhere. -/
  told : (x.perform d).1.activeNode? ≠ x.activeNode? → (x.perform d).2 ≠ none
  /-- The pointer and the switches of the types do neither. -/
  bystander : (d.operation.hovers = true ∨ ∃ key, d.operation = .toggleType key) →
    (x.perform d).1.activeNode? = x.activeNode? ∧ (x.perform d).2 = none
  /-- A new snapshot sends the camera somewhere exactly if it lacks the active node, -/
  adopts : ∀ {snapshot groups}, d.operation = .adopt snapshot groups →
    ((x.perform d).2 ≠ none ↔ ∃ id, x.activeNode? = some id ∧ snapshot.contains id = false)
  /-- and drops the active node exactly then. -/
  drops : ∀ {snapshot groups}, d.operation = .adopt snapshot groups →
    (x.activeNode? ≠ none ∧ (x.perform d).1.activeNode? = none ↔
      ∃ id, x.activeNode? = some id ∧ snapshot.contains id = false)

theorem steers (x : Interaction) (d : Deed) : Steers x d where
  told changed := by
    rcases x.perform_cases d with ⟨same, _⟩ | aim
    · exact absurd same changed
    · simp [aim]
  bystander idle := by
    obtain ⟨s, o⟩ := d
    rcases idle with hovers | ⟨key, rfl⟩
    · cases o with
      | hoverNode id => exact ⟨hover_activeNode? x s _, rfl⟩
      | hoverLink edge => exact ⟨hover_activeNode? x s _, rfl⟩
      | select target => cases hovers
      | click id => cases hovers
      | toggleType key => cases hovers
      | adopt snapshot groups => cases hovers
    · exact ⟨rfl, rfl⟩
  adopts := by
    rintro snapshot groups same
    obtain ⟨s, o⟩ := d
    cases same
    show (x.adopt snapshot groups).2 ≠ none ↔ _
    rcases x.adopt_cases snapshot groups with ⟨lacks, _, aim⟩ | ⟨has, _, quiet⟩
    · exact iff_of_true (by simp [aim]) lacks
    · exact iff_of_false (by simp [quiet]) has
  drops := by
    rintro snapshot groups same
    obtain ⟨s, o⟩ := d
    cases same
    show _ ∧ (x.adopt snapshot groups).1.activeNode? = none ↔ _
    rcases x.adopt_cases snapshot groups with ⟨lacks, dropped, _⟩ | ⟨has, kept, _⟩
    · have active : x.activeNode? ≠ none := by
        obtain ⟨id, active, _⟩ := lacks
        simp [active]
      exact iff_of_true ⟨active, dropped⟩ lacks
    · exact iff_of_false (fun ⟨active, dropped⟩ => active (kept.symm.trans dropped)) has

/-! ## Runs -/

theorem after_concat (x : Interaction) (deeds : List Deed) (d : Deed) :
    x.after (deeds ++ [d]) = ((x.after deeds).perform d).1 := by
  simp [after]

/-- The last aim of a run, or the aim before it, is at what is active in the end. -/
theorem aim_of_after (x : Interaction) (deeds : List Deed) :
    (x.aims deeds).getLast?.getD (.on x.activeNode?) = .on (x.after deeds).activeNode? := by
  induction deeds generalizing x with
  | nil => rfl
  | cons d rest ih =>
    show ((x.perform d).2.toList ++ (x.perform d).1.aims rest).getLast?.getD (.on x.activeNode?) =
      .on ((x.perform d).1.after rest).activeNode?
    rw [← ih, List.getLast?_append]
    cases later : ((x.perform d).1.aims rest).getLast? with
    | some aim => rfl
    | none =>
      rcases x.perform_cases d with ⟨same, quiet⟩ | aim
      · simp [quiet, same]
      · simp [aim]

/-! ## Clicks -/

/-- The nodes that are clicked on, one after the other. -/
def clicks (deeds : List Deed) : List NodeId :=
  deeds.filterMap fun d => d.operation.clicked?

/-- What clicks on some nodes leave active: the last node, if it was clicked on an odd number of times without
another one in between. -/
def leftActive (clicks : List NodeId) : Option NodeId :=
  clicks.getLast?.bind fun id => if Odd (clicks.rtakeWhile (· = id)).length then some id else none

theorem leftActive_concat (clicks : List NodeId) (id : NodeId) :
    leftActive (clicks ++ [id]) = if leftActive clicks = some id then none else some id := by
  have last : (clicks ++ [id]).rtakeWhile (· = id) = clicks.rtakeWhile (· = id) ++ [id] :=
    List.rtakeWhile_concat_pos _ _ _ (by simp)
  rw [leftActive, List.getLast?_concat, Option.bind_some, last, List.length_append, List.length_singleton,
    leftActive]
  simp only [Nat.odd_add_one]
  cases before : clicks.getLast? with
  | none =>
    rw [List.getLast?_eq_none_iff.1 before]
    simp
  | some other =>
    by_cases same : other = id
    · subst same
      by_cases odd : Odd (clicks.rtakeWhile (· = other)).length <;> simp [odd]
    · -- the click before went to another node, so the new one stands alone
      have alone : clicks.rtakeWhile (· = id) = [] := by
        refine List.rtakeWhile_eq_nil_iff.2 fun present => ?_
        rw [List.getLast?_eq_some_getLast present] at before
        simpa [Option.some.inj before] using same
      by_cases odd : Odd (clicks.rtakeWhile (· = other)).length <;> simp [alone, odd, same]

theorem after_of_plain (inactive : x.activeNode? = none)
    (plain : ∀ d ∈ deeds, d.operation.isPlain = true) :
    (x.after deeds).activeNode? = leftActive (clicks deeds) := by
  induction deeds using List.reverseRecOn with
  | nil => exact inactive
  | append_singleton deeds d ih =>
    have before := ih fun e member => plain e (List.mem_append_left _ member)
    have isPlain := plain d (by simp)
    obtain ⟨s, o⟩ := d
    rw [after_concat, clicks, List.filterMap_append]
    cases o with
    | click id =>
      show ((x.after deeds).click s id).1.activeNode? = leftActive (clicks deeds ++ [id])
      rw [click_activeNode?, leftActive_concat, before]
    | hoverNode id =>
      show ((x.after deeds).hover s _).activeNode? = leftActive (clicks deeds ++ [])
      rw [hover_activeNode?, before, List.append_nil]
    | hoverLink edge =>
      show ((x.after deeds).hover s _).activeNode? = leftActive (clicks deeds ++ [])
      rw [hover_activeNode?, before, List.append_nil]
    | toggleType key =>
      show (x.after deeds).activeNode? = leftActive (clicks deeds ++ [])
      rw [before, List.append_nil]
    | select target => cases isPlain
    | adopt snapshot groups => cases isPlain

/-- What a run of operations makes of the active node and of the camera. -/
structure AimsAtActive (deeds : List Deed) : Prop where
  /-- Every operation of it steers the camera by what it does to the active node. -/
  steers : ∀ {earlier d later}, deeds = earlier ++ d :: later → Steers (initial.after earlier) d
  /-- With a node active the camera was last sent to it, -/
  active : ∀ {id}, (initial.after deeds).activeNode? = some id →
    (initial.aims deeds).getLast? = some (.node id)
  /-- and without one to the origin, if it was sent anywhere. -/
  inactive : (initial.after deeds).activeNode? = none →
    ∀ {aim}, (initial.aims deeds).getLast? = some aim → aim = .origin
  /-- After clicks on nodes, with the pointer and the switches of the types in between, the last node is
  active if the clicks at the end that all go to it are odd in number, and otherwise none. -/
  clicked : ∀ {x : Interaction}, x.activeNode? = none → (∀ d ∈ deeds, d.operation.isPlain = true) →
    ∀ {id}, (clicks deeds).getLast? = some id → (x.after deeds).activeNode? =
      if Odd ((clicks deeds).rtakeWhile (· = id)).length then some id else none

/-- In every run the camera was last sent to the active node. -/
theorem camera_follows_active (deeds : List Deed) : AimsAtActive deeds where
  steers _ := steers _ _
  active := by
    intro id isActive
    have aim := initial.aim_of_after deeds
    rw [isActive] at aim
    cases last : (initial.aims deeds).getLast? with
    | none =>
      rw [last] at aim
      cases aim
    | some other =>
      rw [last] at aim
      exact congrArg some aim
  inactive := by
    intro none aim last
    have on := initial.aim_of_after deeds
    rw [none, last] at on
    exact on
  clicked := by
    intro x inactive plain id last
    rw [after_of_plain inactive plain, leftActive, last]
    rfl

/-- Two nodes are clicked on in turn, and then the second one again and again. -/
def clickedAround : List Deed :=
  [⟨.empty, .click "a"⟩, ⟨.empty, .toggleType none⟩, ⟨.empty, .click "b"⟩,
    ⟨.empty, .hoverNode (some "a")⟩, ⟨.empty, .click "b"⟩, ⟨.empty, .hoverLink none⟩,
    ⟨.empty, .click "b"⟩]

/-- Three clicks on it leave it active, with the camera on it. -/
theorem camera_follows_active_clicked : (initial.after clickedAround).activeNode? = some "b" ∧
    (initial.aims clickedAround).getLast? = some (.node "b") := by
  have follows := camera_follows_active clickedAround
  have last : (clicks clickedAround).getLast? = some "b" := by decide
  have clicked := follows.clicked (x := initial) rfl (by decide) last
  have thrice : Odd ((clicks clickedAround).rtakeWhile (· = "b")).length := by decide
  rw [if_pos thrice] at clicked
  exact ⟨clicked, follows.active clicked⟩

end Interaction

end GraphViewer

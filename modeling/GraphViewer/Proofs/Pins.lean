import GraphViewer.Proofs.Presses
import GraphViewer.Proofs.Reload
/-
Pins. A drag pins its node. Time leaves a pinned node where it is, and a new snapshot leaves it there as long as
it has the id. So if the ids of every snapshot are distinct, a node is pinned just if it was dragged since its id
came to the layout, and nothing but a drag takes a pinned node to another place.
-/

namespace GraphViewer

/-- A node is as pinned as it was, and where it was if it is pinned. -/
structure Particle.Steady {α : Type} (p q : Particle α) : Prop where
  id : q.id = p.id
  pinned : q.pinned = p.pinned
  place : p.pinned = true → q.place = p.place

theorem Particle.Steady.refl {α : Type} (p : Particle α) : p.Steady p :=
  ⟨rfl, rfl, fun _ => rfl⟩

/-- No force moves a pinned node, and none pins a node or frees it. -/
theorem lasting_steady {α : Type} [Scalar α] : Physics.Lasting fun p q : Particle α => p.Steady q where
  refl := .refl
  trans one other := by
    refine ⟨other.id.trans one.id, other.pinned.trans one.pinned, fun pinned => ?_⟩
    rw [other.place (one.pinned.trans pinned), one.place pinned]
  push _ _ _ _ := ⟨rfl, rfl, fun _ => rfl⟩
  move p dt := by
    rw [Particle.move]
    split
    · exact .refl p
    · rename_i free
      exact ⟨rfl, rfl, fun pinned => absurd pinned free⟩

namespace Layout

variable {W N : Type} [Scalar W] [Scalar N] [Narrowing W N] {start l next : Layout W N}
  {changes : List (Change W N)} {c : Change W N} {s : Snapshot} {p q : Particle N} {id : NodeId}

/-! ## Drags -/

/-- After some changes another one drags the node with an id: the pointer moves with the node in hand, and it
goes far from the point of the press, or has been far from it since. -/
inductive Drags (start : Layout W N) (changes : List (Change W N)) : Change W N → NodeId → Prop
  | move {l : Layout W N} {i : Nat} {p q r : Point W} {way : List (Point W)} {t : Targets W} {id : NodeId} :
      start.after? changes = some l → InHand start changes i p way → l.ids[i]? = some id →
      r ∈ way ++ [q] → Far p r → Drags start changes (.move q t) id

/-- In the course of some changes a node with an id was dragged, and all snapshots since had the id. -/
inductive Dragged (start : Layout W N) : List (Change W N) → NodeId → Prop
  | drag {changes : List (Change W N)} {c : Change W N} {id : NodeId} :
      Drags start changes c id → Dragged start (changes ++ [c]) id
  | still {changes : List (Change W N)} {c : Change W N} {id : NodeId} : Dragged start changes id →
      (∀ s, c = .load s → id ∈ s.ids) → Dragged start (changes ++ [c]) id

/-- A change drags the node with an id, as far as the layout itself can tell. -/
def TakesAlong (l : Layout W N) (c : Change W N) (id : NodeId) : Prop :=
  ∃ q t d, c = .move q t ∧ l.drag = some d ∧ d.Takes q ∧ l.ids[d.node]? = some id

theorem drags_iff (fresh : start.drag = none) (run : start.after? changes = some l) :
    Drags start changes c id ↔ l.TakesAlong c id := by
  constructor
  · intro drags
    cases drags with
    | move reached hand named passes far =>
      cases reached.symm.trans run
      obtain ⟨d, held, records⟩ := drag_of_inHand hand run
      rw [← records.node] at named
      exact ⟨_, _, d, rfl, held, records.takes_iff.2 ⟨_, passes, far⟩, named⟩
  · rintro ⟨q, t, d, rfl, held, takes, named⟩
    obtain ⟨way, hand, records⟩ := inHand_of_drag fresh run held
    obtain ⟨r, passes, far⟩ := records.takes_iff.1 takes
    exact .move run hand named passes far

/-! ## What a change does to the nodes -/

/-- A change lays out a snapshot, takes a node along, or leaves the nodes to the forces. -/
inductive Shifts (l : Layout W N) : Change W N → Layout W N → Prop
  | load (s : Snapshot) : Shifts l (.load s) (l.load s)
  | drag {q : Point W} {t : Targets W} {d : Drag W N} {x y : N} {next : Layout W N} :
      l.drag = some d → d.Takes q →
      next.physics = { l.physics with
        particles := l.physics.particles.modify d.node ({ · with x := x, y := y, pinned := true }) } →
      Shifts l (.move q t) next
  | rest {c : Change W N} {next : Layout W N} : (∀ s, c ≠ .load s) → (∀ id, ¬ l.TakesAlong c id) →
      l.physics.Kept (fun p q => p.Steady q) next.physics → Shifts l c next

theorem physics_pointerDown (l : Layout W N) (p : Point W) (t : Targets W) :
    (l.pointerDown p t).physics = l.physics := by
  unfold pointerDown
  split <;> rfl

theorem physics_pointerMove {p : Point W} {t : Targets W} (near : ∀ d, l.drag = some d → ¬ d.Takes p) :
    (l.pointerMove p t).1.physics = l.physics := by
  unfold pointerMove
  split
  · rename_i held
    rw [dragTo_of_not_takes (near _ held)]
  · rfl
  · dsimp only
    split <;> rfl

theorem shifts_of_same (unloaded : ∀ s, c ≠ .load s) (untaken : ∀ id, ¬ l.TakesAlong c id)
    (same : next.physics = l.physics) : Shifts l c next := by
  refine .rest unloaded untaken ?_
  rw [same]
  exact .refl lasting_steady _

omit [Scalar N] [Narrowing W N] in
/-- Of all changes only a move of the pointer can take a node along. -/
theorem not_takesAlong (stays : c.goesTo? = none) (id : NodeId) : ¬ l.TakesAlong c id := by
  rintro ⟨q, t, d, rfl, _⟩
  cases stays

theorem shifts_of_undergo (step : l.undergo? c = some next) : Shifts l c next := by
  cases c with
  | load s =>
    cases step
    exact .load s
  | tick dt =>
    obtain ⟨physics, _, _, updated, rfl⟩ := exists_of_tick step
    exact .rest nofun (not_takesAlong rfl) (Physics.kept_update lasting_steady updated)
  | move q t =>
    cases step
    by_cases goes : ∃ d, l.drag = some d ∧ d.Takes q
    · obtain ⟨d, held, takes⟩ := goes
      obtain ⟨x, y, drags⟩ := dragTo_of_takes (l := l) takes
      refine .drag (x := x) (y := y) held takes ?_
      rw [pointerMove_of_drag held, drags]
    · have near (d : Drag W N) (held : l.drag = some d) (takes : d.Takes q) : False := goes ⟨d, held, takes⟩
      refine shifts_of_same nofun ?_ (physics_pointerMove near)
      rintro id ⟨_, _, d, ⟨⟩, held, takes, _⟩
      exact near d held takes
  | down q t =>
    cases step
    exact shifts_of_same nofun (not_takesAlong rfl) (physics_pointerDown l q t)
  | _ =>
    cases step
    exact shifts_of_same nofun (not_takesAlong rfl) rfl

/-- The nodes that a snapshot brings have been there, or they are new and free. -/
theorem steady_of_load (there : q ∈ (l.load s).particles) :
    (∃ p ∈ l.particles, p.Steady q) ∨ (q.id ∉ l.ids ∧ q.pinned = false) := by
  obtain ⟨⟨n, i⟩, _, rfl⟩ :
      ∃ n ∈ s.nodes.zipIdx, settle (W := W) l.particles s.nodes.length n.2 n.1.id = q := by
    simpa [load, particles] using there
  dsimp only [settle]
  cases found : particleIn? l.particles n.id with
  | some p =>
    have named : p.id = n.id := by simpa using List.find?_some found
    exact .inl ⟨p, List.mem_reverse.1 (List.mem_of_find?_eq_some found), named.symm, rfl, fun _ => rfl⟩
  | none =>
    have unplaced : l.placeOf? n.id = none := by
      rw [placeOf?, found]
      rfl
    exact .inr ⟨placeOf?_eq_none_iff.1 unplaced, rfl⟩

/-- Only a snapshot changes which nodes there are. -/
theorem ids_undergo (step : l.undergo? c = some next) :
    (∃ s, c = .load s ∧ next.ids = s.ids) ∨ ((∀ s, c ≠ .load s) ∧ next.ids = l.ids) := by
  cases shifts_of_undergo step with
  | load s => exact .inl ⟨s, rfl, l.ids_load s⟩
  | drag held takes drags =>
    refine .inr ⟨nofun, ?_⟩
    rw [ids, drags]
    exact l.physics.ids_modify _ fun _ => rfl
  | rest unloaded _ kept =>
    exact .inr ⟨unloaded, Physics.ids_of_kept (kept.mono Particle.Steady.id)⟩

theorem distinct_after (bare : start.ids = []) (distinct : ∀ s, .load s ∈ changes → s.ids.Nodup)
    (run : start.after? changes = some l) : l.ids.Nodup := by
  refine after?_keeps (P := fun l => l.ids.Nodup) (by simp [bare]) (fun member earlier step => ?_) run
  rcases ids_undergo step with ⟨s, rfl, renewed⟩ | ⟨_, same⟩
  · rw [renewed]
    exact distinct s member
  · rw [same]
    exact earlier

omit [Scalar W] [Scalar N] [Narrowing W N] in
theorem mem_particles_iff : p ∈ l.particles ↔ ∃ i : Nat, l.physics.particles[i]? = some p := by
  rw [particles, List.mem_iff_getElem?]
  simp only [Array.getElem?_toList]

omit [Scalar W] [Scalar N] [Narrowing W N] in
theorem eq_of_id (distinct : l.ids.Nodup) (one : p ∈ l.particles) (other : q ∈ l.particles)
    (same : q.id = p.id) : q = p :=
  List.inj_on_of_nodup_map distinct other one same

/-- A node is pinned after a change that drags it. After any other it is pinned just if it was before, and then
it is where it was. -/
theorem steady_or_taken (step : l.undergo? c = some next) (distinct : l.ids.Nodup) (here : p ∈ l.particles)
    (there : q ∈ next.particles) (same : q.id = p.id) :
    (p.Steady q ∧ ¬ l.TakesAlong c p.id) ∨ (q.pinned = true ∧ l.TakesAlong c p.id) := by
  cases shifts_of_undergo step with
  | load s =>
    refine .inl ⟨?_, not_takesAlong rfl _⟩
    rcases steady_of_load there with ⟨p', here', steady⟩ | ⟨new, _⟩
    · obtain rfl : p' = p := eq_of_id distinct here here' (steady.id.symm.trans same)
      exact steady
    · rw [same] at new
      exact absurd (List.mem_map_of_mem here) new
  | @drag r t d x y _ held takes drags =>
    obtain ⟨k, there⟩ := mem_particles_iff.1 there
    rw [drags, Array.getElem?_modify] at there
    by_cases slot : d.node = k
    · subst slot
      rw [if_pos rfl] at there
      obtain ⟨p', present, rfl⟩ := Option.map_eq_some_iff.1 there
      refine .inr ⟨rfl, r, t, d, rfl, held, takes, ?_⟩
      rw [ids, Physics.getElem?_ids, present]
      exact congrArg some same
    · rw [if_neg slot] at there
      obtain rfl : q = p := eq_of_id distinct here (mem_particles_iff.2 ⟨k, there⟩) same
      refine .inl ⟨.refl q, ?_⟩
      rintro ⟨_, _, d', ⟨⟩, held', _, named⟩
      cases held.symm.trans held'
      -- the node in hand is in another slot, and with distinct ids it has another id
      have named' : l.ids[k]? = some q.id := by
        rw [ids, Physics.getElem?_ids, there]
        rfl
      obtain ⟨inside, _⟩ := List.getElem?_eq_some_iff.1 named
      exact slot ((List.getElem?_inj inside distinct).1 (named.trans named'.symm))
  | rest _ untaken kept =>
    obtain ⟨k, there⟩ := mem_particles_iff.1 there
    have stays := kept k
    rw [there] at stays
    generalize present : l.physics.particles[k]? = before at stays
    cases stays with
    | @some p' _ steady =>
      have among : p' ∈ l.particles := mem_particles_iff.2 ⟨k, present⟩
      obtain rfl : p' = p := eq_of_id distinct here among (steady.id.symm.trans same)
      exact .inl ⟨steady, untaken _⟩

/-- A node that was not there before is free. -/
theorem free_of_new (step : l.undergo? c = some next) (there : q ∈ next.particles) (new : q.id ∉ l.ids) :
    q.pinned = false := by
  rcases ids_undergo step with ⟨s, rfl, _⟩ | ⟨_, same⟩
  · cases step
    rcases steady_of_load there with ⟨p, here, steady⟩ | ⟨_, free⟩
    · rw [steady.id] at new
      exact absurd (List.mem_map_of_mem here) new
    · exact free
  · rw [← same] at new
    exact absurd (List.mem_map_of_mem there) new

/-! ## Pins -/

/-- There is a pinned node with an id. -/
def Pins (l : Layout W N) (id : NodeId) : Prop :=
  ∃ p ∈ l.particles, p.id = id ∧ p.pinned = true

/-- A node that a snapshot does not drop is there after any change. -/
theorem exists_after (step : l.undergo? c = some next) (present : id ∈ l.ids)
    (stays : ∀ s, c = .load s → id ∈ s.ids) : ∃ q ∈ next.particles, q.id = id := by
  have after : id ∈ next.ids := by
    rcases ids_undergo step with ⟨s, loads, renewed⟩ | ⟨_, same⟩
    · rw [renewed]
      exact stays s loads
    · rw [same]
      exact present
  exact List.mem_map.1 after

/-- After a change the pinned nodes are those that were and are still there, and the one that it drags. -/
theorem pins_undergo_iff (step : l.undergo? c = some next) (distinct : l.ids.Nodup) : next.Pins id ↔
    (l.Pins id ∧ ∀ s, c = .load s → id ∈ s.ids) ∨ l.TakesAlong c id := by
  constructor
  · rintro ⟨q, there, rfl, pinned⟩
    by_cases known : q.id ∈ l.ids
    · obtain ⟨p, here, same⟩ := List.mem_map.1 known
      rcases steady_or_taken step distinct here there same.symm with ⟨steady, _⟩ | ⟨_, taken⟩
      · refine .inl ⟨⟨p, here, same, steady.pinned.symm.trans pinned⟩, ?_⟩
        rintro s rfl
        cases step
        rw [Snapshot.ids, ← l.ids_load s]
        exact List.mem_map_of_mem there
      · rw [same] at taken
        exact .inr taken
    · cases (free_of_new step there known).symm.trans pinned
  · rintro (⟨⟨p, here, rfl, pinned⟩, stays⟩ | taken)
    · obtain ⟨q, there, same⟩ := exists_after step (List.mem_map_of_mem here) stays
      refine ⟨q, there, same, ?_⟩
      rcases steady_or_taken step distinct here there same with ⟨steady, _⟩ | ⟨pinned', _⟩
      · exact steady.pinned.trans pinned
      · exact pinned'
    · obtain ⟨r, t, d, rfl, held, takes, named⟩ := taken
      have known : id ∈ l.ids := List.mem_of_getElem? named
      obtain ⟨p, here, rfl⟩ := List.mem_map.1 known
      obtain ⟨q, there, same⟩ := exists_after step known (by rintro s ⟨⟩)
      rcases steady_or_taken step distinct here there same with ⟨_, untaken⟩ | ⟨pinned, _⟩
      · exact absurd ⟨r, t, d, rfl, held, takes, named⟩ untaken
      · exact ⟨q, there, same, pinned⟩

/-- There are pinned nodes just by drags. -/
theorem pins_iff_dragged (fresh : start.drag = none) (bare : start.ids = [])
    (distinct : ∀ s, .load s ∈ changes → s.ids.Nodup) (run : start.after? changes = some l) :
    l.Pins id ↔ Dragged start changes id := by
  have earlier {changes : List (Change W N)} {c : Change W N}
      (distinct : ∀ s, .load s ∈ changes ++ [c] → s.ids.Nodup) (s : Snapshot) (member : .load s ∈ changes) :
      s.ids.Nodup := distinct s (List.mem_append_left _ member)
  constructor
  · intro pins
    induction changes using List.reverseRecOn generalizing l with
    | nil =>
      cases run
      obtain ⟨p, here, _⟩ := pins
      have named : p.id ∈ start.ids := List.mem_map_of_mem here
      rw [bare] at named
      cases named
    | append_singleton changes c ih =>
      obtain ⟨before, reached, step⟩ := after?_concat_iff.1 run
      have apart := distinct_after bare (earlier distinct) reached
      rcases (pins_undergo_iff step apart).1 pins with ⟨already, stays⟩ | taken
      · exact (ih (earlier distinct) reached already).still stays
      · exact .drag ((drags_iff fresh reached).2 taken)
  · intro dragged
    induction dragged generalizing l with
    | drag drags =>
      obtain ⟨before, reached, step⟩ := after?_concat_iff.1 run
      have apart := distinct_after bare (earlier distinct) reached
      exact (pins_undergo_iff step apart).2 (.inr ((drags_iff fresh reached).1 drags))
    | still _ stays ih =>
      obtain ⟨before, reached, step⟩ := after?_concat_iff.1 run
      have apart := distinct_after bare (earlier distinct) reached
      exact (pins_undergo_iff step apart).2 (.inl ⟨ih (earlier distinct) reached, stays⟩)

/-- How nodes are pinned after some changes. -/
structure PinnedByDrags (start : Layout W N) (changes : List (Change W N)) (l : Layout W N) : Prop where
  /-- A node is pinned just if it was dragged since its id came, -/
  pinned_iff : ∀ {p}, p ∈ l.particles → (p.pinned = true ↔ Dragged start changes p.id)
  /-- and a change after which a pinned node is at another place drags it. -/
  still : ∀ {c next p q}, l.undergo? c = some next → p ∈ l.particles → p.pinned = true →
    q ∈ next.particles → q.id = p.id → q.place ≠ p.place → Drags start changes c p.id

/-- On a new canvas, with snapshots in which no id comes twice, drags pin the nodes and nothing else does. -/
theorem pinned_by_drags {width height : W} (distinct : ∀ s, .load s ∈ changes → s.ids.Nodup)
    (run : (create width height).after? changes = some l) :
    PinnedByDrags (create width height) changes l := by
  have bare : (create width height : Layout W N).ids = [] := rfl
  have apart : l.ids.Nodup := distinct_after bare distinct run
  constructor
  · intro p here
    rw [← pins_iff_dragged rfl bare distinct run]
    constructor
    · intro pinned
      exact ⟨p, here, rfl, pinned⟩
    · rintro ⟨q, there, same, pinned⟩
      obtain rfl : q = p := eq_of_id apart here there same
      exact pinned
  · intro c next p q step here pinned there same moved
    rcases steady_or_taken step apart here there same with ⟨steady, _⟩ | ⟨_, taken⟩
    · exact absurd (steady.place pinned) moved
    · exact (drags_iff rfl run).2 taken

attribute [local instance] Session.instScalarInt Session.instNarrowingInt

/-- Two nodes, both at `(500, 300)` on a canvas of the standard size, and the second one with a third. -/
def abreast : Snapshot :=
  ⟨[⟨"a", [], [], 7⟩, ⟨"b", [], [], 7⟩], [], false⟩

def relieved : Snapshot :=
  ⟨[⟨"b", [], [], 7⟩, ⟨"c", [], [], 7⟩], [], false⟩

/-- The second node is dragged off and let go of. The next snapshot keeps it, and the pointer shakes a little
with the third one in hand. -/
def draggedOff : List (Change Int Int) :=
  [.load abreast, .down ⟨500, 300⟩ (allOf abreast), .move ⟨560, 300⟩ (allOf abreast), .up, .tick 1,
    .load relieved, .down ⟨500, 300⟩ (allOf relieved), .move ⟨501, 300⟩ (allOf relieved)]

theorem distinct_draggedOff (s : Snapshot) (member : .load s ∈ draggedOff) : s.ids.Nodup := by
  obtain rfl | rfl : s = abreast ∨ s = relieved := by simpa [draggedOff] using member
  · decide
  · decide

/-- The second node is pinned where it was dragged to, and the third one is free. -/
theorem pinned_by_drags_off : (∀ s, .load s ∈ draggedOff → s.ids.Nodup) ∧
    ∃ l, (create 800 600).after? draggedOff = some l ∧ PinnedByDrags (create 800 600) draggedOff l ∧
      l.places = [⟨160, 0, true⟩, ⟨100, 0, false⟩] := by
  have placed : ((create 800 600).after? draggedOff).map places = some [⟨160, 0, true⟩, ⟨100, 0, false⟩] := by
    decide +kernel
  obtain ⟨l, run, here⟩ := Option.map_eq_some_iff.1 placed
  exact ⟨distinct_draggedOff, l, run, pinned_by_drags distinct_draggedOff run, here⟩

end Layout

end GraphViewer

import Mathlib.Data.List.Basic
import GraphViewer.View.Canvas
import GraphViewer.Layout.Pointer
/-
A layout and what it is a layout of. Forces, drags and the camera move what is laid out, but only a new
snapshot changes which nodes have a place, and only the pointer changes what it rests on.
-/

namespace GraphViewer

namespace Physics

variable {α : Type} {related : Particle α → Particle α → Prop} {s next last : Physics α}

/-- The nodes, by their places. -/
def ids (s : Physics α) : List NodeId :=
  s.particles.toList.map Particle.id

theorem getElem?_ids (s : Physics α) (i : Nat) : s.ids[i]? = s.particles[i]?.map Particle.id := by
  rw [ids, List.getElem?_map, Array.getElem?_toList]

theorem mem_ids {s : Physics α} {i : Nat} {id : NodeId}
    (found : s.particles[i]?.map Particle.id = some id) : id ∈ s.ids :=
  List.mem_of_getElem? ((s.getElem?_ids i).trans found)

/-- Whatever particle stands at a place, the one that has come to stand there is related to it. -/
def Kept (related : Particle α → Particle α → Prop) (s next : Physics α) : Prop :=
  ∀ i : Nat, Option.Rel related s.particles[i]? next.particles[i]?

theorem ids_of_kept {s next : Physics α} (kept : Kept (fun p q => q.id = p.id) s next) : next.ids = s.ids := by
  refine List.ext_getElem? fun i => ?_
  rw [getElem?_ids, getElem?_ids]
  have here := kept i
  generalize s.particles[i]? = before, next.particles[i]? = after at here ⊢
  cases here with
  | none => rfl
  | some same => exact congrArg some same

theorem Kept.mono {other : Particle α → Particle α → Prop} (implies : ∀ {p q}, related p q → other p q)
    (kept : Kept related s next) : Kept other s next := by
  intro i
  have here := kept i
  generalize s.particles[i]? = before, next.particles[i]? = after at here ⊢
  cases here with
  | none => exact .none
  | some here => exact .some (implies here)

theorem kept_modify (refl : ∀ p, related p p) {f : Particle α → Particle α} (each : ∀ p, related p (f p))
    (s : Physics α) (i : Nat) : Kept related s { s with particles := s.particles.modify i f } := by
  intro j
  rw [Array.getElem?_modify]
  cases s.particles[j]? with
  | none => by_cases here : i = j <;> simp [here]
  | some p =>
    by_cases here : i = j
    · simpa [here] using each p
    · simpa [here] using refl p

variable [Scalar α]

/-- Forces and moves of a particle, however many, leave it related to what it was. -/
structure Lasting (related : Particle α → Particle α → Prop) : Prop where
  refl : ∀ p, related p p
  trans : ∀ {p q r}, related p q → related q r → related p r
  push : ∀ p dt fx fy, related p (p.push dt fx fy)
  move : ∀ p dt, related p (p.move dt)

theorem Kept.refl (lasting : Lasting related) (s : Physics α) : Kept related s s := by
  intro i
  cases s.particles[i]? with
  | none => exact .none
  | some p => exact .some (lasting.refl p)

theorem Kept.trans (lasting : Lasting related) (one : Kept related s next) (other : Kept related next last) :
    Kept related s last := by
  intro i
  have first := one i
  have second := other i
  generalize s.particles[i]? = before, next.particles[i]? = between, last.particles[i]? = after
    at first second ⊢
  cases first with
  | none => exact second
  | some first =>
    cases second with
    | some second => exact .some (lasting.trans first second)

theorem kept_push (lasting : Lasting related) (s : Physics α) (i : Nat) (dt fx fy : α) :
    Kept related s { s with particles := s.particles.modify i (·.push dt fx fy) } :=
  kept_modify lasting.refl (fun p => lasting.push p dt fx fy) s i

theorem kept_spring (lasting : Lasting related) (dt : α) (i : Nat) (s : Physics α) (j : Nat) :
    Kept related s (s.spring dt i j) := by
  unfold spring
  split
  · exact kept_push lasting s i dt _ _
  · exact Kept.refl lasting s

theorem kept_repel (lasting : Lasting related) (dt : α) (i : Nat) (s : Physics α) (j : Nat) :
    Kept related s (s.repel dt i j) := by
  unfold repel
  split
  · rename_i p q _ _
    have first : Kept related s ⟨if p.pinned then s.particles
        else s.particles.modify i (·.push dt (p.repulsion q).1 (p.repulsion q).2), s.links⟩ := by
      split
      · exact Kept.refl lasting s
      · exact kept_push lasting s i dt _ _
    refine first.trans lasting ?_
    cases q.pinned with
    | true => exact Kept.refl lasting _
    | false => exact kept_push lasting { s with particles := _ } j dt _ _
  · exact Kept.refl lasting s

theorem kept_foldl (lasting : Lasting related) {step : Physics α → Nat → Physics α}
    (each : ∀ s j, Kept related s (step s j)) (js : List Nat) (s : Physics α) :
    Kept related s (js.foldl step s) := by
  induction js generalizing s with
  | nil => exact Kept.refl lasting s
  | cons j js ih => exact (each s j).trans lasting (ih (step s j))

theorem kept_advance (lasting : Lasting related) (dt : α) (s : Physics α) (i : Nat) :
    Kept related s (s.advance dt i) := by
  rw [advance]
  have pulled := kept_foldl lasting (kept_spring lasting dt i) (s.neighbours i) s
  have moved (t : Physics α) : Kept related t { t with particles := t.particles.modify i (·.move dt) } :=
    kept_modify lasting.refl (fun p => lasting.move p dt) t i
  refine pulled.trans lasting (Kept.trans lasting ?_ (moved _))
  exact kept_foldl lasting (kept_repel lasting dt i) _ _

/-- Time does nothing to the particles but forces and moves. -/
theorem kept_update (lasting : Lasting related) {dt : α} (updated : s.update? dt = some next) :
    Kept related s next := by
  unfold update? at updated
  split at updated
  · cases updated
  · cases updated
    exact kept_foldl lasting (kept_advance lasting dt) _ s

/-- The ids of particles last. -/
theorem lasting_id : Lasting fun p q : Particle α => q.id = p.id where
  refl _ := rfl
  trans one other := other.trans one
  push _ _ _ _ := rfl
  move p dt := by
    rw [Particle.move]
    split <;> rfl

theorem ids_modify (s : Physics α) (i : Nat) {f : Particle α → Particle α} (same : ∀ p, (f p).id = p.id) :
    ids { s with particles := s.particles.modify i f } = s.ids := by
  refine ids_of_kept ?_
  exact kept_modify lasting_id.refl same s i

/-- Time moves the nodes, and neither adds nor drops one. -/
theorem ids_update {s next : Physics α} {dt : α} (updated : s.update? dt = some next) : next.ids = s.ids :=
  ids_of_kept (kept_update lasting_id updated)

end Physics

namespace Layout

variable {W N : Type} {l next : Layout W N}

/-- The nodes of a layout, by their places. -/
def ids (l : Layout W N) : List NodeId :=
  l.physics.ids

/-- Neither the nodes nor what the pointer rests on have changed. -/
def SameNodes (l next : Layout W N) : Prop :=
  next.ids = l.ids ∧ next.pointer = l.pointer

theorem sameNodes_resize (l : Layout W N) (width height : W) : l.SameNodes (l.resize width height) :=
  ⟨rfl, rfl⟩

theorem sameNodes_pointerUp (l : Layout W N) : l.SameNodes l.pointerUp.1 :=
  ⟨rfl, rfl⟩

theorem mem_ids_of_clicked {id : NodeId} (clicked : l.pointerUp.2 = some id) : id ∈ l.ids := by
  unfold pointerUp at clicked
  split at clicked
  · split at clicked
    · cases clicked
    · exact Physics.mem_ids clicked
  · cases clicked

variable [Scalar W]

theorem sameNodes_wheel (l : Layout W N) (p : Point W) (turn : W) : l.SameNodes (l.wheel p turn) :=
  ⟨rfl, rfl⟩

variable [Narrowing W N]

theorem sameNodes_obey (l : Layout W N) (o : CameraOrder W) : l.SameNodes (l.obey o) :=
  ⟨rfl, rfl⟩

theorem mem_ids_of_under {p : Point W} {t : Targets W} {id : NodeId} (found : l.under p t = .node id) :
    id ∈ l.ids := by
  unfold under at found
  split at found
  · rename_i i _
    cases present : l.physics.particles[i]?.map Particle.id with
    | none => simp [present] at found
    | some other =>
      rw [present] at found
      cases found
      exact Physics.mem_ids present
  · cases linked : l.linkAt? p t.link <;> simp [linked] at found

variable [Scalar N]

/-- Time moves the nodes, what flows along the links and the camera. -/
theorem exists_of_tick {dt : N} (ticked : l.tick? dt = some next) : ∃ physics flow camera,
    l.physics.update? dt = some physics ∧
      next = { l with physics := physics, flow := flow, camera := camera } := by
  obtain ⟨physics, updated, same⟩ := Option.bind_eq_some_iff.1 ticked
  exact ⟨physics, _, _, updated, (Option.some.inj same).symm⟩

theorem sameNodes_tick {dt : N} (ticked : l.tick? dt = some next) : l.SameNodes next := by
  obtain ⟨physics, _, _, updated, rfl⟩ := exists_of_tick ticked
  exact ⟨Physics.ids_update updated, rfl⟩

theorem sameNodes_pointerDown (l : Layout W N) (p : Point W) (t : Targets W) :
    l.SameNodes (l.pointerDown p t) := by
  unfold pointerDown
  split <;> exact ⟨rfl, rfl⟩

/-- A new snapshot gives the layout its nodes, and what the pointer rested on is forgotten. -/
theorem ids_load (l : Layout W N) (s : Snapshot) : (l.load s).ids = s.nodes.map Node.id := by
  have settled (before : List (Particle N)) (count i : Nat) (id : NodeId) :
      (settle (W := W) before count i id).id = id := by
    unfold settle
    split <;> rfl
  rw [ids, load, Physics.ids, List.map_map]
  refine (List.map_congr_left (g := Node.id ∘ Prod.fst) fun p _ => settled _ _ _ _).trans ?_
  rw [← List.map_map, List.zipIdx_map_fst]

theorem pointer_load (l : Layout W N) (s : Snapshot) : (l.load s).pointer = .nothing :=
  rfl

theorem sameNodes_dragTo (l : Layout W N) (d : Drag W N) (p : Point W) : l.SameNodes (l.dragTo d p) := by
  dsimp only [dragTo]
  split
  · exact ⟨rfl, rfl⟩
  · exact ⟨l.physics.ids_modify d.node fun _ => rfl, rfl⟩

/-- A move of the pointer tells what it has come to rest on, or leaves that as it was. -/
theorem pointerMove_finds (l : Layout W N) (p : Point W) (t : Targets W) :
    ((l.pointerMove p t).2 = none ∧ l.SameNodes (l.pointerMove p t).1) ∨
    ((l.pointerMove p t).2 = some (l.under p t) ∧
      (l.pointerMove p t).1 = { l with pointer := l.under p t }) := by
  unfold pointerMove
  split
  · exact .inl ⟨rfl, sameNodes_dragTo l _ p⟩
  · exact .inl ⟨rfl, rfl, rfl⟩
  · by_cases same : l.under p t = l.pointer
    · refine .inl ?_
      rw [if_pos same]
      exact ⟨rfl, rfl, rfl⟩
    · rw [if_neg same]
      exact .inr ⟨rfl, rfl⟩

/-- A node that it has come to rest on is one of the layout. -/
theorem pointerMove_cases (l : Layout W N) (p : Point W) (t : Targets W) :
    ((l.pointerMove p t).2 = none ∧ l.SameNodes (l.pointerMove p t).1) ∨
    ∃ h, (l.pointerMove p t).2 = some h ∧ (l.pointerMove p t).1 = { l with pointer := h } ∧
      ∀ {id}, h = .node id → id ∈ l.ids := by
  rcases l.pointerMove_finds p t with silent | ⟨report, moved⟩
  · exact .inl silent
  · exact .inr ⟨_, report, moved, mem_ids_of_under⟩

end Layout

/-! ## The canvas -/

namespace Canvas

variable {W N : Type} {c d e : Canvas W N}

/-- Both canvases have the same nodes under the same pointer, or neither of them has a layout. -/
def SameNodes (c d : Canvas W N) : Prop :=
  Option.Rel Layout.SameNodes c.layout d.layout

theorem SameNodes.refl (c : Canvas W N) : c.SameNodes c := by
  rw [SameNodes]
  cases c.layout with
  | none => exact .none
  | some l => exact .some ⟨rfl, rfl⟩

theorem SameNodes.trans (one : c.SameNodes d) (other : d.SameNodes e) : c.SameNodes e := by
  rw [SameNodes] at one other ⊢
  generalize c.layout = before, d.layout = between, e.layout = after at one other ⊢
  cases one with
  | none => exact other
  | some same =>
    cases other with
    | some same' => exact .some ⟨same'.1.trans same.1, same'.2.trans same.2⟩

theorem SameNodes.symm (same : c.SameNodes d) : d.SameNodes c := by
  rw [SameNodes] at same ⊢
  generalize c.layout = before, d.layout = after at same ⊢
  cases same with
  | none => exact .none
  | some same => exact .some ⟨same.1.symm, same.2.symm⟩

theorem SameNodes.before (same : c.SameNodes d) {next : Layout W N} (present : d.layout = some next) :
    ∃ l, c.layout = some l ∧ l.SameNodes next := by
  rw [SameNodes, present] at same
  generalize c.layout = before at same ⊢
  cases same with
  | some same => exact ⟨_, rfl, same⟩

theorem SameNodes.after (same : c.SameNodes d) {l : Layout W N} (present : c.layout = some l) :
    ∃ next, d.layout = some next ∧ l.SameNodes next := by
  obtain ⟨next, after, back⟩ := same.symm.before present
  exact ⟨next, after, back.1.symm, back.2.symm⟩

theorem sameNodes_with {l next : Layout W N} (present : c.layout = some l) (same : l.SameNodes next) :
    c.SameNodes { c with layout := some next } := by
  rw [SameNodes, present]
  exact .some same

variable [Scalar W]

theorem sameNodes_fit (c : Canvas W N) : c.SameNodes c.fit := by
  unfold fit
  split
  · exact .refl c
  · rename_i l present
    rw [SameNodes, present]
    exact .some (l.sameNodes_resize _ _)

theorem sameNodes_moveTo (c : Canvas W N) (room : Option (Int × Int)) : c.SameNodes (c.moveTo room) :=
  sameNodes_fit { c with site := { c.site with room := room } }

variable [Narrowing W N]

theorem sameNodes_obey (c : Canvas W N) (aim : Aim) : c.SameNodes (c.obey aim) := by
  rw [SameNodes, obey, withLayout]
  cases c.layout with
  | none => exact .none
  | some l => exact .some (l.sameNodes_obey _)

end Canvas

end GraphViewer

import Mathlib.Data.List.Pairwise
import Mathlib.Tactic.MkIffOfInductiveProp
import GraphViewer.Json.Decode
/-
Reading the members of an object. What a record comes to does not depend on the order of its members, nor on
members with a name that it does not know, if each of its fields keeps to a place of its own.
-/

namespace GraphViewer.Json

/-- Two readings succeed alike, and with the same value. -/
def Agree {ε α : Type _} (x y : Except ε α) : Prop :=
  ∀ a, x = .ok a ↔ y = .ok a

section

variable {ε α β σ : Type _} {x y z : Except ε α}

theorem bind_eq_ok_iff {f : α → Except ε β} {b : β} :
    (x >>= f) = .ok b ↔ ∃ a, x = .ok a ∧ f a = .ok b := by
  cases x <;> simp [bind, Except.bind]

@[simp]
theorem map_eq_ok_iff {f : α → β} {b : β} : f <$> x = .ok b ↔ ∃ a, x = .ok a ∧ f a = b := by
  cases x <;> simp [Functor.map, Except.map]

theorem mapError_eq_ok_iff {ε' : Type _} {f : ε → ε'} {a : α} : x.mapError f = .ok a ↔ x = .ok a := by
  cases x with
  | ok b => constructor <;> rintro ⟨⟩ <;> rfl
  | error e => exact ⟨nofun, nofun⟩

namespace Agree

theorem refl (x : Except ε α) : Agree x x :=
  fun _ => Iff.rfl

theorem trans (agree : Agree x y) (later : Agree y z) : Agree x z :=
  fun a => (agree a).trans (later a)

theorem bind {f g : α → Except ε β} (agree : Agree x y) (later : ∀ a, Agree (f a) (g a)) :
    Agree (x >>= f) (y >>= g) := by
  intro b
  simp only [bind_eq_ok_iff, agree _, later _ _]

theorem map (f : α → β) (agree : Agree x y) : Agree (f <$> x) (f <$> y) := by
  intro b
  simp only [map_eq_ok_iff, agree _]

theorem mapError {ε' : Type _} (f : ε → ε') (agree : Agree x y) : Agree (x.mapError f) (y.mapError f) := by
  intro a
  simp only [mapError_eq_ok_iff, agree _]

/-- The order of steps that can be swapped does not matter to a run of them. -/
theorem foldlM_perm {f : σ → α → Except ε σ}
    (comm : ∀ s a b, Agree (f s a >>= (f · b)) (f s b >>= (f · a))) {l l' : List α} (perm : l.Perm l') (s : σ) :
    Agree (l.foldlM f s) (l'.foldlM f s) := by
  induction perm generalizing s with
  | nil => exact refl _
  | cons a _ ih =>
    simp only [List.foldlM_cons]
    exact (refl _).bind ih
  | swap a b l =>
    simp only [List.foldlM_cons, ← bind_assoc]
    exact (comm s b a).bind fun _ => refl _
  | trans _ _ ih ih' => exact (ih s).trans (ih' s)

end Agree

end

/-! ## Records -/

variable {ρ α : Type} {r : Record ρ α} {room : Nat} {s s' : ρ}

/-- Neither of two fields has a hand in the other. -/
@[mk_iff]
structure Field.Apart (f g : Field ρ) : Prop where
  left : ∀ room t set, f.read room t = .ok set → ∀ s, g.isSet (set s) = g.isSet s
  right : ∀ room t set, g.read room t = .ok set → ∀ s, f.isSet (set s) = f.isSet s
  comm : ∀ room t set, f.read room t = .ok set → ∀ u set', g.read room u = .ok set' →
    ∀ s, set (set' s) = set' (set s)

attribute [simp] Field.apart_iff

instance : Std.Symm (@Field.Apart ρ) where
  symm _ _ apart := ⟨apart.right, apart.left, fun room t set reads u set' reads' s =>
    (apart.comm room u set' reads' t set reads s).symm⟩

/-- Each field keeps to a place of its own, and is set once it has been read. -/
structure Record.Lawful (r : Record ρ α) : Prop where
  sets : ∀ f ∈ r.fields, ∀ room t set, f.read room t = .ok set → ∀ s, f.isSet (set s) = true
  apart : r.fields.Pairwise Field.Apart

/-- A name is not that of a field. -/
def Record.Unknown (r : Record ρ α) (name : String) : Prop :=
  ∀ f ∈ r.fields, f.answersTo name = false

/-- What a member does to what has been read. -/
inductive Record.Takes (r : Record ρ α) (room : Nat) : Quoted × Tree → ρ → ρ → Prop
  | skip {key : Quoted} {t : Tree} {name : String} {s : ρ} (named : key.text = .ok name)
      (unknown : r.fields.find? (·.answersTo name) = none) (skipped : t.skip = .ok ()) : Takes r room (key, t) s s
  | field {key : Quoted} {t : Tree} {name : String} {f : Field ρ} {set : ρ → ρ} {s : ρ}
      (named : key.text = .ok name) (found : r.fields.find? (·.answersTo name) = some f)
      (fresh : f.isSet s = false) (reads : f.read room t = .ok set) : Takes r room (key, t) s (set s)

theorem flawed_eq_ok_iff {β : Type} {x : Except Flaw β} {b : β} : flawed x = .ok b ↔ x = .ok b :=
  mapError_eq_ok_iff

theorem Record.readMember_eq_ok_iff {m : Quoted × Tree} :
    r.readMember room s m = .ok s' ↔ r.Takes room m s s' := by
  obtain ⟨key, t⟩ := m
  simp only [Record.readMember, bind_eq_ok_iff, flawed_eq_ok_iff]
  constructor
  · rintro ⟨name, named, reads⟩
    cases found : r.fields.find? (·.answersTo name) with
    | none =>
      simp only [found, bind_eq_ok_iff, flawed_eq_ok_iff] at reads
      obtain ⟨_, skipped, ⟨⟩⟩ := reads
      exact .skip named found skipped
    | some f =>
      simp only [found] at reads
      split at reads
      · cases reads
      · rename_i fresh
        obtain ⟨set, given, ⟨⟩⟩ := bind_eq_ok_iff.1 reads
        exact .field named found (Bool.eq_false_iff.2 fresh) given
  · intro takes
    cases takes with
    | skip named unknown skipped => exact ⟨_, named, by simp only [unknown, skipped]; rfl⟩
    | field named found fresh reads => exact ⟨_, named, by simp [found, fresh, reads]⟩

theorem Record.Lawful.takes_comm (lawful : r.Lawful) {a b : Quoted × Tree} {u : ρ}
    (first : r.Takes room a s s') (second : r.Takes room b s' u) :
    ∃ v, r.Takes room b s v ∧ r.Takes room a v u := by
  cases first with
  | skip named unknown skipped => exact ⟨u, second, .skip named unknown skipped⟩
  | @field key t name f set s named found fresh reads =>
    cases second with
    | skip named' unknown skipped => exact ⟨s, .skip named' unknown skipped, .field named found fresh reads⟩
    | @field key' t' name' g set' s named' found' fresh' reads' =>
      have ofRecord := List.mem_of_find?_eq_some found
      -- a second member of the same field would have found it set
      have different : f ≠ g := by
        rintro rfl
        rw [lawful.sets f ofRecord room t set reads] at fresh'
        cases fresh'
      have apart := lawful.apart.forall ofRecord (List.mem_of_find?_eq_some found') different
      rw [apart.left room t set reads] at fresh'
      refine ⟨set' s, .field named' found' fresh' reads', ?_⟩
      rw [← apart.comm room t set reads t' set' reads']
      refine .field named found ?_ reads
      rwa [apart.right room t' set' reads']

theorem Record.Lawful.readMember_comm (lawful : r.Lawful) (room : Nat) (s : ρ) (a b : Quoted × Tree) :
    Agree (r.readMember room s a >>= (r.readMember room · b))
      (r.readMember room s b >>= (r.readMember room · a)) := by
  intro u
  simp only [bind_eq_ok_iff, Record.readMember_eq_ok_iff]
  constructor
  · rintro ⟨s', first, second⟩
    exact lawful.takes_comm first second
  · rintro ⟨s', first, second⟩
    exact lawful.takes_comm first second

/-! ## Readings of parts -/

/-- A relation of two readings that carries over from parts of a document to the whole: what is read before them
and after them does not matter to it. -/
structure Lasts (R : (α : Type) → Except Fault α → Except Fault α → Prop) : Prop where
  bind : ∀ {α β : Type} {x y : Except Fault α} (f : α → Except Fault β), R α x y → R β (x >>= f) (y >>= f)
  after : ∀ {α β : Type} (x : Except Fault α) {f g : α → Except Fault β},
    (∀ a, x = .ok a → R β (f a) (g a)) → R β (x >>= f) (x >>= g)

theorem Agree.lasts : Lasts fun α => @Agree Fault α where
  bind _ agree := agree.bind fun _ => .refl _
  after x f g later b := by
    rw [bind_eq_ok_iff, bind_eq_ok_iff]
    exact exists_congr fun a => and_congr_right fun given => later a given b

variable {R : (α : Type) → Except Fault α → Except Fault α → Prop} (lasts : Lasts R)
  {members members' before after : List (Quoted × Tree)} {finish : ObjectEnd}

include lasts in
theorem Lasts.error {β : Type} (e : Fault) : R β (.error e) (.error e) :=
  lasts.after (.error e : Except Fault Empty) (f := nofun) (g := nofun) nofun

include lasts in
theorem Lasts.map {β γ : Type} {x y : Except Fault β} (f : β → γ) (alike : R β x y) :
    R γ (f <$> x) (f <$> y) := by
  simp only [map_eq_pure_bind]
  exact lasts.bind _ alike

include lasts in
/-- Objects whose members come to the same are read alike. -/
theorem Record.decode_object
    (alike : R ρ (members.foldlM (r.readMember (room - 1)) r.blank)
      (members'.foldlM (r.readMember (room - 1)) r.blank)) :
    R α (r.decode room (.object members finish)) (r.decode room (.object members' finish)) := by
  cases room with
  | zero => exact lasts.error _
  | succ room => exact lasts.bind _ alike

theorem Record.Lawful.decode_perm (lawful : r.Lawful) (room : Nat) (perm : members.Perm members') :
    Agree (r.decode room (.object members finish)) (r.decode room (.object members' finish)) :=
  decode_object Agree.lasts (Agree.foldlM_perm (lawful.readMember_comm _) perm _)

include lasts in
/-- A member in place of one that it reads like makes no difference. -/
theorem Record.decode_member {m m' : Quoted × Tree}
    (alike : ∀ room s, R ρ (r.readMember room s m) (r.readMember room s m')) (room : Nat) :
    R α (r.decode room (.object (before ++ m :: after) finish))
      (r.decode room (.object (before ++ m' :: after) finish)) := by
  apply decode_object lasts
  simp only [List.foldlM_append, List.foldlM_cons]
  exact lasts.after _ fun s _ => lasts.bind _ (alike _ s)

/-- A member that is skipped makes no difference. -/
theorem Record.decode_skipped {key : Quoted} {t : Tree} {name : String} (named : key.text = .ok name)
    (unknown : r.Unknown name) (skipped : t.skip = .ok ()) (room : Nat) :
    Agree (r.decode room (.object (before ++ after) finish))
      (r.decode room (.object (before ++ (key, t) :: after) finish)) := by
  have none : r.fields.find? (·.answersTo name) = none := by
    simpa [Unknown] using unknown
  have passes (s : ρ) : r.readMember (room - 1) s (key, t) = .ok s :=
    readMember_eq_ok_iff.2 (.skip named none skipped)
  apply decode_object Agree.lasts
  simp only [List.foldlM_append, List.foldlM_cons, passes]
  exact .refl _

/-- A member that names a field is read by it. -/
theorem Record.readMember_named {key : Quoted} {name : String} {f : Field ρ} (named : key.text = .ok name)
    (found : r.fields.find? (·.answersTo name) = some f) (room : Nat) (s : ρ) (t : Tree) :
    r.readMember room s (key, t) =
      if f.isSet s then .error (.duplicate f.name) else f.read room t >>= fun set => .ok (set s) := by
  have read : flawed key.text = .ok name := flawed_eq_ok_iff.2 named
  simp only [readMember, read, bind, Except.bind, found, pure, Except.pure]

include lasts in
/-- Members are read alike that name one field and have values which that field reads alike. -/
theorem Record.readMember_alike {key key' : Quoted} {t t' : Tree} {name name' : String} {f : Field ρ}
    (named : key.text = .ok name) (found : r.fields.find? (·.answersTo name) = some f)
    (named' : key'.text = .ok name') (found' : r.fields.find? (·.answersTo name') = some f)
    (alike : ∀ room, R (ρ → ρ) (f.read room t) (f.read room t')) (room : Nat) (s : ρ) :
    R ρ (r.readMember room s (key, t)) (r.readMember room s (key', t')) := by
  rw [readMember_named named found, readMember_named named' found']
  split
  · exact lasts.error _
  · exact lasts.bind _ (alike room)

/-! ## Items -/

include lasts in
/-- An item in place of one that its field reads alike makes no difference to a record in an array. -/
theorem Record.readItems_alike {f : Field ρ} {t t' : Tree}
    (alike : R (ρ → ρ) (f.read room t) (f.read room t'))
    {finish : ArrayEnd} {fields later : List (Field ρ)} {items rest : List Tree}
    (place : fields.length = items.length) (count : Nat) (s : ρ) :
    R ρ (r.readItems room finish (fields ++ f :: later) (items ++ t :: rest) count s)
      (r.readItems room finish (fields ++ f :: later) (items ++ t' :: rest) count s) := by
  induction fields generalizing items count s with
  | nil =>
    obtain rfl := List.length_eq_zero_iff.1 place.symm
    simp only [List.nil_append, readItems]
    exact lasts.bind _ alike
  | cons g fields ih =>
    cases items with
    | nil => cases place
    | cons u items =>
      simp only [List.cons_append, readItems]
      exact lasts.after _ fun _ _ => ih (Nat.succ.inj place) _ _

include lasts in
theorem Record.decode_item {f : Field ρ} {t t' : Tree} {fields later : List (Field ρ)} {items rest : List Tree}
    {finish : ArrayEnd} (listed : r.fields = fields ++ f :: later) (place : fields.length = items.length)
    (alike : ∀ room, R (ρ → ρ) (f.read room t) (f.read room t')) (room : Nat) :
    R α (r.decode room (.array (items ++ t :: rest) finish))
      (r.decode room (.array (items ++ t' :: rest) finish)) := by
  cases room with
  | zero => exact lasts.error _
  | succ room =>
    simp only [decode, listed]
    exact lasts.bind _ (readItems_alike lasts (alike room) place 0 r.blank)

include lasts in
theorem Decode.list_alike {β : Type} {item : Decoder β} {t t' : Tree} {before after : List Tree} {finish : ArrayEnd}
    (alike : ∀ room, R β (item room t) (item room t')) (room : Nat) :
    R (List β) (list item room (.array (before ++ t :: after) finish))
      (list item room (.array (before ++ t' :: after) finish)) := by
  cases room with
  | zero => exact lasts.error _
  | succ room =>
    simp only [list, List.mapM_append, List.mapM_cons]
    exact lasts.bind _ (lasts.after _ fun _ _ => lasts.bind _ (lasts.bind _ (alike room)))

include lasts in
theorem Decode.optional_alike {β : Type} {inner : Decoder β} {t t' : Tree} (some : t ≠ .null) (some' : t' ≠ .null)
    (alike : ∀ room, R β (inner room t) (inner room t')) (room : Nat) :
    R (Option β) (optional inner room t) (optional inner room t') := by
  have present {t : Tree} (some : t ≠ .null) : optional inner room t = Option.some <$> inner room t := by
    cases t <;> first | rfl | exact absurd rfl some
  rw [present some, present some']
  exact lasts.map _ (alike room)

include lasts in
theorem Decode.listOrNull_alike {β : Type} {item : Decoder β} {t t' : Tree} {before after : List Tree}
    {finish : ArrayEnd} (alike : ∀ room, R β (item room t) (item room t')) (room : Nat) :
    R (List β) (listOrNull item room (.array (before ++ t :: after) finish))
      (listOrNull item room (.array (before ++ t' :: after) finish)) := by
  have present (items : List Tree) : optional (list item) room (.array items finish) =
      some <$> list item room (.array items finish) := rfl
  simp only [listOrNull, present]
  exact lasts.map _ (lasts.map some (list_alike lasts alike room))

end GraphViewer.Json

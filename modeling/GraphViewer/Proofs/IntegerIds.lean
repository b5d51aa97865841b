import GraphViewer.Proofs.Integers
import GraphViewer.Proofs.Nulls
/-
Graphs whose ids are integers. They are read as if the names of the integers were given as strings. An integer that
fits 64 bits, with a sign or without, is the id of that integer alone. One that does not fit is read as a double, and
has its id in common with the others that are read as this double, while zero has two ids, one with a sign. So an edge
finds the nodes with the integers of its ends, and no other ones, just as far as the integers fit.
-/

namespace GraphViewer

open Json

namespace Json

/-! ## What a field comes to -/

variable {ρ α : Type} {r : Record ρ α} {f : Field ρ} {t v : Tree} {room : ℕ} {s s' : ρ} {a : α}

/-- What a field has set stays set by the items after its own. -/
theorem Record.readItems_keeps {later : List (Field ρ)} (apart : ∀ g ∈ later, f.Apart g) {set : ρ → ρ}
    (reads : f.read room v = .ok set) {finish : ArrayEnd} {items : List Tree} {count : ℕ}
    (read : r.readItems room finish later items count (set s) = .ok s') : ∃ u, s' = set u := by
  induction later generalizing items count s with
  | nil =>
    cases items with
    | nil =>
      obtain ⟨_, -, ⟨⟩⟩ := bind_eq_ok_iff.1 read
      exact ⟨s, rfl⟩
    | cons => cases read
  | cons g later ih =>
    have others : ∀ g ∈ later, f.Apart g := fun g among => apart g (List.mem_cons_of_mem _ among)
    cases items with
    | nil =>
      obtain ⟨_, -, read⟩ := bind_eq_ok_iff.1 read
      split at read
      · cases read
      · exact ih others read
    | cons t items =>
      obtain ⟨set', reads', read⟩ := bind_eq_ok_iff.1 read
      rw [← (apart g List.mem_cons_self).comm room v set reads t set' reads'] at read
      exact ih others read

theorem Record.readItems_at {fields later : List (Field ρ)} {finish : ArrayEnd} {items rest : List Tree} {count : ℕ}
    (place : fields.length = items.length)
    (read : r.readItems room finish (fields ++ f :: later) (items ++ v :: rest) count s = .ok s') :
    ∃ set u count, f.read room v = .ok set ∧ r.readItems room finish later rest count (set u) = .ok s' := by
  induction fields generalizing items count s with
  | nil =>
    obtain rfl := List.length_eq_zero_iff.1 place.symm
    obtain ⟨set, reads, read⟩ := bind_eq_ok_iff.1 read
    exact ⟨set, _, _, reads, read⟩
  | cons g fields ih =>
    cases items with
    | nil => cases place
    | cons t items =>
      obtain ⟨_, -, read⟩ := bind_eq_ok_iff.1 read
      exact ih (Nat.succ.inj place) read

/-- Wherever the value of a field stands, the record is built of what the field has read. -/
theorem Record.Lawful.decode_holds (lawful : r.Lawful) {place : Tree → Tree} (holds : r.Holds f place)
    (read : r.decode room (place v) = .ok a) : ∃ room set s, f.read room v = .ok set ∧ r.build (set s) = .ok a := by
  cases holds with
  | @member before after key name named found =>
    -- the member may as well come last
    have perm : (before ++ (key, v) :: after).Perm ((before ++ after) ++ [(key, v)]) :=
      List.perm_middle.trans (List.perm_append_singleton _ _).symm
    replace read := (lawful.decode_perm room perm a).1 read
    clear perm
    generalize before ++ after = others at read
    cases room with
    | zero => cases read
    | succ room =>
      simp only [decode, List.foldlM_append, List.foldlM_cons, List.foldlM_nil, bind_assoc] at read
      obtain ⟨s, -, read⟩ := bind_eq_ok_iff.1 read
      obtain ⟨u, last, built⟩ := bind_eq_ok_iff.1 read
      cases readMember_eq_ok_iff.1 last with
      | skip named' unknown =>
        rw [named] at named'
        cases named'
        rw [found] at unknown
        cases unknown
      | field named' found' _ reads =>
        rw [named] at named'
        cases named'
        rw [found] at found'
        cases found'
        exact ⟨room, _, s, reads, built⟩
  | item listed place =>
    cases room with
    | zero => cases read
    | succ room =>
      simp only [decode, listed] at read
      obtain ⟨u, items, built⟩ := bind_eq_ok_iff.1 read
      obtain ⟨set, s, _, reads, later⟩ := readItems_at place items
      have apart := lawful.apart
      rw [listed, List.pairwise_append, List.pairwise_cons] at apart
      obtain ⟨u, rfl⟩ := readItems_keeps apart.2.1.1 reads later
      exact ⟨room, set, u, reads, built⟩

theorem Record.Nulled.holds {t' : Tree} (nulled : r.Nulled f t t') : ∃ place, r.Holds f place ∧ t' = place .null := by
  cases nulled with
  | member named found absent => exact ⟨_, .member named found, rfl⟩
  | item listed place => exact ⟨fun t => .array (_ ++ t :: []) .closed, .item listed place, rfl⟩

theorem forall₂_of_mapM {ε β γ : Type} {g : β → Except ε γ} {bs : List β} {cs : List γ} (read : bs.mapM g = .ok cs) :
    List.Forall₂ (fun b c => g b = .ok c) bs cs := by
  induction bs generalizing cs with
  | nil =>
    cases read
    exact .nil
  | cons b bs ih =>
    rw [List.mapM_cons] at read
    obtain ⟨c, first, read⟩ := bind_eq_ok_iff.1 read
    obtain ⟨cs, later, ⟨⟩⟩ := bind_eq_ok_iff.1 read
    exact .cons first (ih later)

theorem Decode.forall₂_of_list {β : Type} {item : Decoder β} {items : List Tree} {bs : List β}
    (read : Decode.list item room (.array items .closed) = .ok bs) :
    List.Forall₂ (fun t b => ∃ room, item room t = .ok b) items bs := by
  cases room with
  | zero => cases read
  | succ room =>
    obtain ⟨_, each, ⟨⟩⟩ := bind_eq_ok_iff.1 read
    exact (forall₂_of_mapM each).imp fun _ _ first => ⟨room, first⟩

end Json

/-! ## The parts of a graph -/

/-- The lists of a graph. -/
inductive GraphList where
  | nodes
  | edges

namespace GraphList

/-- What the items of the list are read as. -/
def inner : GraphList → Kind
  | nodes => .node
  | edges => .edge

def field (part : GraphList) : Json.Field Payload.Draft :=
  match part with
  | nodes => Container.nodes.field
  | edges => Container.edges.field

def of : (part : GraphList) → Payload → List part.inner.Value
  | nodes, p => p.nodes
  | edges, p => p.edges

/-- A document of a graph gives these items for the list: it may leave it out, or give null, if there are none. -/
inductive Given (part : GraphList) : List Tree → Tree → Prop
  | list {place : Tree → Tree} {items : List Tree} (holds : Payload.record.Holds part.field place) :
      Given part items (place (.array items .closed))
  | null {place : Tree → Tree} (holds : Payload.record.Holds part.field place) : Given part [] (place .null)
  | absent {t t' : Tree} (nulled : Payload.record.Nulled part.field t t') : Given part [] t

variable {part : GraphList} {p : Payload} {room : ℕ} {t t' v : Tree} {items : List Tree}

theorem read_holds {place : Tree → Tree} (holds : Payload.record.Holds part.field place)
    (read : Payload.record.decode room (place v) = .ok p) :
    ∃ room, Decode.listOrNull part.inner.record.decode room v = .ok (part.of p) := by
  obtain ⟨room, set, s, reads, builds⟩ := Payload.lawful.decode_holds holds read
  cases part <;>
  · obtain ⟨given, fieldRead, ⟨⟩⟩ := bind_eq_ok_iff.1 reads
    cases builds
    exact ⟨room, fieldRead⟩

theorem takesNull (part : GraphList) : part.field.required = false ∧ Payload.record.TakesNull part.field := by
  cases part with
  | nodes => exact Container.takesNull (c := .nodes) rfl
  | edges => exact Container.takesNull (c := .edges) rfl

theorem agree_nulled (nulled : Payload.record.Nulled part.field t t') :
    Agree (Payload.record.decode room t) (Payload.record.decode room t') := by
  obtain ⟨spare, takes⟩ := part.takesNull
  exact Payload.lawful.agree_nulled (Kind.graph.blank_unset _ nulled.mem) spare takes nulled room

theorem Given.read (given : part.Given items t) (read : Payload.record.decode room t = .ok p) :
    List.Forall₂ (fun t a => ∃ room, part.inner.record.decode room t = .ok a) items (part.of p) := by
  have none_of_null {place : Tree → Tree} (holds : Payload.record.Holds part.field place)
      (read : Payload.record.decode room (place .null) = .ok p) : part.of p = [] := by
    obtain ⟨_, read⟩ := read_holds holds read
    exact (Except.ok.inj read).symm
  cases given with
  | list holds =>
    obtain ⟨room, read⟩ := read_holds holds read
    obtain ⟨given, read, whole⟩ := map_eq_ok_iff.1 read
    replace read : some <$> Decode.list part.inner.record.decode room (.array items .closed) = .ok given := read
    obtain ⟨as, listed, rfl⟩ := map_eq_ok_iff.1 read
    rw [← whole]
    exact Decode.forall₂_of_list listed
  | null holds =>
    rw [none_of_null holds read]
    exact .nil
  | absent nulled =>
    replace read := (agree_nulled nulled p).1 read
    obtain ⟨place, holds, rfl⟩ := nulled.holds
    rw [none_of_null holds read]
    exact .nil

end GraphList

/-- The places of ids that tell nodes apart. -/
inductive Naming where
  | id
  | source
  | target

namespace Naming

def kind : Naming → Kind
  | id => .node
  | source | target => .edge

def name : Naming → String
  | id => "id"
  | source => "source"
  | target => "target"

def field (naming : Naming) : Json.Field naming.kind.Draft :=
  (naming.kind.record.fields.find? (·.name == naming.name)).get (by cases naming <;> rfl)

def of : (naming : Naming) → naming.kind.Value → NodeId
  | id, (n : SentNode) => n.id
  | source, (e : Edge) => e.source
  | target, (e : Edge) => e.target

/-- A document of a node or an edge gives this number there. -/
def Given (naming : Naming) (n : Numeral) (t : Tree) : Prop :=
  ∃ place, naming.kind.record.Holds naming.field place ∧ t = place (.number n)

variable {naming : Naming} {n : Numeral} {t : Tree} {room : ℕ} {a : naming.kind.Value}

theorem Given.read (given : naming.Given n t) (read : naming.kind.record.decode room t = .ok a) :
    n.name? = some (naming.of a) := by
  obtain ⟨place, holds, rfl⟩ := given
  obtain ⟨room, set, s, reads, builds⟩ := naming.kind.lawful.decode_holds holds read
  cases naming with
  | id =>
    obtain ⟨name, named, ⟨⟩⟩ := bind_eq_ok_iff.1 reads
    cases builds
    exact (Decode.name_number room n _).1 named
  | source =>
    obtain ⟨name, named, ⟨⟩⟩ := bind_eq_ok_iff.1 reads
    obtain ⟨_, ⟨⟩, built⟩ := bind_eq_ok_iff.1 builds
    obtain ⟨_, -, ⟨⟩⟩ := bind_eq_ok_iff.1 built
    exact (Decode.name_number room n _).1 named
  | target =>
    obtain ⟨name, named, ⟨⟩⟩ := bind_eq_ok_iff.1 reads
    obtain ⟨_, -, built⟩ := bind_eq_ok_iff.1 builds
    obtain ⟨_, ⟨⟩, ⟨⟩⟩ := bind_eq_ok_iff.1 built
    exact (Decode.name_number room n _).1 named

end Naming

/-! ## Graphs with integers as ids -/

/-- A graph in which the ids of the nodes and the ends of the edges are given as these integers. -/
structure GivesIntegers (ids : List Numeral) (ends : List (Numeral × Numeral)) (t : Tree) : Prop where
  nodes : ∃ items, GraphList.nodes.Given items t ∧ List.Forall₂ Naming.id.Given ids items
  edges : ∃ items, GraphList.edges.Given items t ∧
    List.Forall₂ (fun e t => Naming.source.Given e.1 t ∧ Naming.target.Given e.2 t) ends items
  ids : ∀ n ∈ ids, n.IsInteger
  ends : ∀ e ∈ ends, e.1.IsInteger ∧ e.2.IsInteger

/-- All integers of a graph. -/
def literals (ids : List Numeral) (ends : List (Numeral × Numeral)) : List Numeral :=
  ids ++ ends.flatMap fun e => [e.1, e.2]

variable {ids : List Numeral} {ends : List (Numeral × Numeral)} {t : Tree} {p : Payload} {room : ℕ}

theorem map_eq_of_forall₂ {α β γ δ : Type} {R : α → β → Prop} {S : β → γ → Prop} {g : α → δ} {h : γ → δ}
    (both : ∀ a b c, R a b → S b c → g a = h c) {as : List α} {bs : List β} {cs : List γ}
    (given : List.Forall₂ R as bs) (read : List.Forall₂ S bs cs) : as.map g = cs.map h := by
  induction given generalizing cs with
  | nil =>
    cases read
    rfl
  | cons first _ ih =>
    cases read with
    | cons first' later => rw [List.map_cons, List.map_cons, both _ _ _ first first', ih later]

namespace GivesIntegers

theorem nodes_named (gives : GivesIntegers ids ends t) (read : Payload.record.decode room t = .ok p) :
    ids.map Numeral.name? = p.nodes.map fun node => some node.id := by
  obtain ⟨items, given, named⟩ := gives.nodes
  refine map_eq_of_forall₂ (fun n t node given ⟨room, read⟩ => ?_) named (given.read read)
  exact @Naming.Given.read .id _ _ _ _ given read

theorem edges_named (gives : GivesIntegers ids ends t) (read : Payload.record.decode room t = .ok p) :
    ends.map (fun e => (e.1.name?, e.2.name?)) = p.edges.map fun edge => (some edge.source, some edge.target) := by
  obtain ⟨items, given, named⟩ := gives.edges
  refine map_eq_of_forall₂ (fun e t edge given ⟨room, read⟩ => ?_) named (given.read read)
  exact Prod.ext (given.1.read read) (given.2.read read)

/-- Every integer in a graph that is read has a name. -/
theorem named (gives : GivesIntegers ids ends t) (read : Payload.record.decode room t = .ok p) :
    ∀ n ∈ literals ids ends, n.IsInteger ∧ ∃ text, n.name? = some text := by
  intro n among
  simp only [literals, List.mem_append, List.mem_flatMap, List.mem_cons, List.not_mem_nil, or_false] at among
  rcases among with first | ⟨e, later, side⟩
  · have among := List.mem_map_of_mem (f := Numeral.name?) first
    rw [gives.nodes_named read] at among
    obtain ⟨node, -, named⟩ := List.mem_map.1 among
    exact ⟨gives.ids n first, node.id, named.symm⟩
  · have among := List.mem_map_of_mem (f := fun e : Numeral × Numeral => (e.1.name?, e.2.name?)) later
    rw [gives.edges_named read] at among
    obtain ⟨edge, -, named⟩ := List.mem_map.1 among
    obtain ⟨source, target⟩ := Prod.mk.inj named
    rcases side with rfl | rfl
    · exact ⟨(gives.ends e later).1, edge.source, source.symm⟩
    · exact ⟨(gives.ends e later).2, edge.target, target.symm⟩

/-- There is a node with the name of an integer if the integer of some node has the same name. -/
theorem contains_iff (gives : GivesIntegers ids ends t) (read : Payload.record.decode room t = .ok p) {n : Numeral}
    (integer : n.IsInteger) {id : NodeId} (named : n.name? = some id) :
    (Snapshot.ofPayload p).contains id = true ↔ ∃ m ∈ ids, m.SameId n := by
  have nodes : (Snapshot.ofPayload p).contains id = true ↔ some id ∈ p.nodes.map fun node => some node.id := by
    simp [Snapshot.contains_iff, Snapshot.ofPayload]
  rw [nodes, ← gives.nodes_named read, List.mem_map]
  refine exists_congr fun m => and_congr_right fun among => ?_
  constructor
  · exact fun named' => Numeral.sameId_of_named (gives.ids m among) integer named' named
  · exact fun same => (same.name_eq (gives.ids m among) integer).trans named

theorem resolved_iff (gives : GivesIntegers ids ends t) (read : Payload.record.decode room t = .ok p)
    {x : (Numeral × Numeral) × Edge} (among : x ∈ ends.zip p.edges) :
    (Snapshot.ofPayload p).isResolved x.2 = true ↔
      (∃ n ∈ ids, n.SameId x.1.1) ∧ ∃ n ∈ ids, n.SameId x.1.2 := by
  have names := gives.edges_named read
  rw [← List.forall₂_eq_eq_eq, List.forall₂_map_left_iff, List.forall₂_map_right_iff] at names
  obtain ⟨source, target⟩ := Prod.mk.inj (List.forall₂_zip names among)
  obtain ⟨integer, integer'⟩ := gives.ends _ (List.of_mem_zip among).1
  rw [Snapshot.isResolved, Bool.and_eq_true, gives.contains_iff read integer source,
    gives.contains_iff read integer' target]

end GivesIntegers

/-- The integers of a graph, and what became of them. -/
structure IntegersTold (ids : List Numeral) (ends : List (Numeral × Numeral)) (p : Payload) : Prop where
  /-- The integers have names, and these are the ids of the nodes -/
  nodes : ids.map Numeral.name? = p.nodes.map fun node => some node.id
  /-- and the ends of the edges. -/
  edges : ends.map (fun e => (e.1.name?, e.2.name?)) =
    p.edges.map fun edge => (some edge.source, some edge.target)
  /-- The name of one that fits 64 bits is the integer. -/
  exact : ∀ n ∈ literals ids ends, n.Exact → n.name? = some (toString n.integer)
  /-- Any other one has the name of the double it is read as. -/
  rough : ∀ n ∈ literals ids ends, ¬ n.Exact →
    ∃ x, n.number = .ok (.double x) ∧ n.name? = some (Number.double x).text
  /-- The same integer has the same name, unless it is zero and only one has a sign. -/
  same : ∀ n ∈ literals ids ends, ∀ m ∈ literals ids ends, n.integer = m.integer →
    (n.name? = m.name? ↔ n.negative = m.negative)
  /-- Different integers have different names, unless neither fits and they are read as one double. -/
  different : ∀ n ∈ literals ids ends, ∀ m ∈ literals ids ends, n.integer ≠ m.integer →
    (n.name? = m.name? ↔ ¬ n.Exact ∧ ¬ m.Exact ∧ n.Merged m)
  /-- So an edge is resolved just if there are nodes for both of its ends that have the same names, -/
  resolved : ∀ x ∈ ends.zip p.edges, (Snapshot.ofPayload p).isResolved x.2 = true ↔
    (∃ n ∈ ids, n.SameId x.1.1) ∧ ∃ n ∈ ids, n.SameId x.1.2
  /-- which means the same integers, if both of them fit. -/
  kept : ∀ x ∈ ends.zip p.edges, x.1.1.Exact → x.1.2.Exact →
    ((Snapshot.ofPayload p).isResolved x.2 = true ↔
      (∃ n ∈ ids, n.Exact ∧ n.integer = x.1.1.integer) ∧ ∃ n ∈ ids, n.Exact ∧ n.integer = x.1.2.integer)

theorem GivesIntegers.told (gives : GivesIntegers ids ends t) (read : Payload.record.decode room t = .ok p) :
    IntegersTold ids ends p where
  nodes := gives.nodes_named read
  edges := gives.edges_named read
  exact n among fits := Numeral.name_exact (gives.named read n among).1 fits
  rough n among large := by
    obtain ⟨integer, text, named⟩ := gives.named read n among
    obtain ⟨x, value, rfl⟩ := Numeral.name?_eq_some_iff.1 named
    rcases Numeral.number_rough integer large with ⟨y, double⟩ | none
    · rw [value] at double
      cases double
      exact ⟨y, value, named⟩
    · rw [value] at none
      cases none
  same n among m among' equal := by
    obtain ⟨integer, text, named⟩ := gives.named read n among
    obtain ⟨integer', -⟩ := gives.named read m among'
    rw [Numeral.name_eq_iff integer integer' named]
    exact ⟨fun same => same.elim And.right fun merged => merged.sign integer integer' equal,
      fun sign => .inl ⟨equal, sign⟩⟩
  different n among m among' unequal := by
    obtain ⟨integer, text, named⟩ := gives.named read n among
    obtain ⟨integer', -⟩ := gives.named read m among'
    rw [Numeral.name_eq_iff integer integer' named]
    constructor
    · rintro (⟨same, -⟩ | merged)
      · exact absurd same unequal
      · exact ⟨merged.rough integer, merged.symm.rough integer', merged⟩
    · exact fun same => .inr same.2.2
  resolved x among := gives.resolved_iff read among
  kept x among source target := by
    obtain ⟨integer, integer'⟩ := gives.ends _ (List.of_mem_zip among).1
    rw [gives.resolved_iff read among]
    simp only [source.sameId_iff integer, target.sameId_iff integer']

/-! ## Integers as strings -/

theorem Json.Decode.name_string (room : ℕ) (q : Quoted) (text : String) :
    Decode.name room (.string q) = .ok text ↔ q.text = .ok text := by
  simp only [name, value, Tree.value, bind_eq_ok_iff, flawed_eq_ok_iff]
  constructor
  · rintro ⟨_, ⟨s, read, ⟨⟩⟩, named⟩
    rwa [← Except.ok.inj named]
  · intro read
    exact ⟨_, ⟨text, read, rfl⟩, rfl⟩

/-- Somewhere in a graph an id is given as a string in place of the number whose name it is. -/
inductive Renamed : Kind → Tree → Tree → Prop
  | here {naming : Naming} {place : Tree → Tree} {n : Numeral} {q : Quoted} {text : String}
      (holds : naming.kind.record.Holds naming.field place) (named : n.name? = some text) (quoted : q.text = .ok text) :
      Renamed naming.kind (place (.number n)) (place (.string q))
  | inside {part : GraphList} {place : Tree → Tree} {front back : List Tree} {t t' : Tree}
      (holds : Payload.record.Holds part.field place) : Renamed part.inner t t' →
      Renamed .graph (place (.array (front ++ t :: back) .closed)) (place (.array (front ++ t' :: back) .closed))

theorem Naming.read_alike (naming : Naming) {n : Numeral} {q : Quoted} {text : String} (named : n.name? = some text)
    (quoted : q.text = .ok text) (room : ℕ) :
    Agree (naming.field.read room (.number n)) (naming.field.read room (.string q)) := by
  have names : Agree (Decode.name room (.number n)) (Decode.name room (.string q)) := by
    intro text'
    rw [Decode.name_number, Decode.name_string, named, quoted, Option.some_inj, Except.ok.injEq]
  cases naming <;> exact names.bind fun _ => .refl _

theorem Renamed.agree {k : Kind} {t t' : Tree} (renamed : Renamed k t t') (room : ℕ) :
    Agree (k.record.decode room t) (k.record.decode room t') := by
  induction renamed generalizing room with
  | @here naming _ _ _ _ holds named quoted => exact holds.alike Agree.lasts (naming.read_alike named quoted) room
  | @inside part _ _ _ _ _ holds _ ih =>
    refine holds.alike Agree.lasts (fun room => ?_) room
    cases part <;> exact (Decode.listOrNull_alike Agree.lasts ih room).bind fun _ => .refl _

/-- In some places of a graph an id is given as a string in place of a number. -/
def AsStrings : Tree → Tree → Prop :=
  Relation.ReflTransGen (Renamed .graph)

theorem AsStrings.agree {t t' : Tree} (strings : AsStrings t t') (room : ℕ) :
    Agree (Payload.record.decode room t) (Payload.record.decode room t') := by
  induction strings with
  | refl => exact .refl _
  | tail _ renamed ih => exact ih.trans (renamed.agree room)

/-- What becomes of the integers that are given as ids in a graph. -/
structure IntegersRead (text : String) (t : Tree) (ids : List Numeral) (ends : List (Numeral × Numeral)) : Prop where
  /-- The graph is read as if their names were given as strings, -/
  strings : ∀ text' t', Spells text' t' → AsStrings t t' → Agree (Payload.read text) (Payload.read text')
  /-- and the names tell as much of the integers as this. -/
  told : ∀ p, Payload.read text = .ok p → IntegersTold ids ends p

theorem integers_read {text : String} (spells : Spells text t) (gives : GivesIntegers ids ends t) :
    IntegersRead text t ids ends where
  strings _ _ spells' strings := decode_alike Agree.lasts spells spells' strings.agree
  told p read := by
    rw [Payload.read, decode, document_of_spells spells] at read
    obtain ⟨_, decoded, ⟨⟩⟩ := bind_eq_ok_iff.1 read
    exact gives.told decoded

/-! ## Closed graphs -/

def minusSeven : Numeral :=
  ⟨true, [7], none, none, .complete⟩

/-- A graph of one node, with an edge from it to an integer that is no node. -/
def sevens : String :=
  "\x7b\"nodes\":[\x7b\"id\":7\x7d],\"edges\":[\x7b\"source\":7,\"target\":-7\x7d]\x7d"

def sevenNode : Tree :=
  .object [(.plain "id", .number seven)] .closed

def sevenEdge : Tree :=
  .object [(.plain "source", .number seven), (.plain "target", .number minusSeven)] .closed

def sevensTree : Tree :=
  .object [(.plain "nodes", .array [sevenNode] .closed), (.plain "edges", .array [sevenEdge] .closed)] .closed

theorem spelt_minusSeven : minusSeven.Spelt ['-', '7'] :=
  .minus (.mk (.digits (.one rfl) (by decide)) .absent .absent)

theorem isInteger_seven (negative : Bool) : (⟨negative, [7], none, none, .complete⟩ : Numeral).IsInteger :=
  Whole.isInteger (.digits (.one (c := '7') rfl) (by decide)) negative

theorem spells_sevens : Spells sevens sevensTree := by
  have node : sevenNode.Written _ := .object (.last rfl (.number rfl))
  have edge : sevenEdge.Written _ := .object (.more rfl (.number rfl) (.last rfl (.number rfl)))
  refine ⟨_, .object (.more rfl (.array (.last node)) (.last rfl (.array (.last edge)))), ?_⟩
  have ends : Writes [] [] := .done (by simp)
  have writes := Writes.tight (.mark (c := '\x7b') rfl) <|
    .tight (.plain (s := "nodes") (by simp [plainChar])) <| .tight (.mark (c := ':') rfl) <|
    .tight (.mark (c := '[') rfl) <| .tight (.mark (c := '\x7b') rfl) <|
    .tight (.plain (s := "id") (by simp [plainChar])) <| .tight (.mark (c := ':') rfl) <| .tight spelt_seven <|
    .tight (.mark (c := '\x7d') rfl) <| .tight (.mark (c := ']') rfl) <| .tight (.mark (c := ',') rfl) <|
    .tight (.plain (s := "edges") (by simp [plainChar])) <| .tight (.mark (c := ':') rfl) <|
    .tight (.mark (c := '[') rfl) <| .tight (.mark (c := '\x7b') rfl) <|
    .tight (.plain (s := "source") (by simp [plainChar])) <| .tight (.mark (c := ':') rfl) <| .tight spelt_seven <|
    .tight (.mark (c := ',') rfl) <| .tight (.plain (s := "target") (by simp [plainChar])) <|
    .tight (.mark (c := ':') rfl) <| .tight (.number spelt_minusSeven) <| .tight (.mark (c := '\x7d') rfl) <|
    .tight (.mark (c := ']') rfl) <| .tight (.mark (c := '\x7d') rfl) ends
  simpa [sevens] using writes

theorem gives_sevens : GivesIntegers [seven] [(seven, minusSeven)] sevensTree where
  nodes := by
    have list : Payload.record.Holds GraphList.nodes.field
        fun t => .object ([] ++ (.plain "nodes", t) :: [(.plain "edges", .array [sevenEdge] .closed)]) .closed :=
      .member (Quoted.text_plain "nodes") rfl
    have id : SentNode.record.Holds Naming.id.field fun t => .object ([] ++ (.plain "id", t) :: []) .closed :=
      .member (Quoted.text_plain "id") rfl
    exact ⟨[sevenNode], .list list, .cons ⟨_, id, rfl⟩ .nil⟩
  edges := by
    have list : Payload.record.Holds GraphList.edges.field
        fun t => .object ([(.plain "nodes", .array [sevenNode] .closed)] ++ (.plain "edges", t) :: []) .closed :=
      .member (Quoted.text_plain "edges") rfl
    have source : Edge.record.Holds Naming.source.field
        fun t => .object ([] ++ (.plain "source", t) :: [(.plain "target", .number minusSeven)]) .closed :=
      .member (Quoted.text_plain "source") rfl
    have target : Edge.record.Holds Naming.target.field
        fun t => .object ([(.plain "source", .number seven)] ++ (.plain "target", t) :: []) .closed :=
      .member (Quoted.text_plain "target") rfl
    exact ⟨[sevenEdge], .list list, .cons ⟨⟨_, source, rfl⟩, _, target, rfl⟩ .nil⟩
  ids := List.forall_mem_singleton.2 (isInteger_seven false)
  ends := List.forall_mem_singleton.2 ⟨isInteger_seven false, isInteger_seven true⟩

/-- A node with the id 7 is not one with the id -7. -/
theorem integers_read_sevens : Spells sevens sevensTree ∧
    GivesIntegers [seven] [(seven, minusSeven)] sevensTree ∧
    Payload.read sevens = .ok ⟨[⟨"7", [], []⟩], [⟨none, none, "7", "-7"⟩], false⟩ ∧
    IntegersTold [seven] [(seven, minusSeven)] ⟨[⟨"7", [], []⟩], [⟨none, none, "7", "-7"⟩], false⟩ := by
  have read : Payload.read sevens = .ok ⟨[⟨"7", [], []⟩], [⟨none, none, "7", "-7"⟩], false⟩ := by
    rw [Payload.read, decode, document_of_spells spells_sevens]
    rfl
  exact ⟨spells_sevens, gives_sevens, read, (integers_read spells_sevens gives_sevens).told _ read⟩

/-- For each last digit, an integer that is close to `2 ^ 64`. -/
def beyondNumeral (d : ℕ) : Numeral :=
  ⟨false, [1, 8, 4, 4, 6, 7, 4, 4, 0, 7, 3, 7, 0, 9, 5, 5, 1, 6, 1, d], none, none, .complete⟩

def zeroNumeral (negative : Bool) : Numeral :=
  ⟨negative, [0], none, none, .complete⟩

/-- The source of the edge is not the node, but the integer after it. -/
def beyondGraph : String :=
  "\x7b\"nodes\":[\x7b\"id\":18446744073709551616\x7d],\"edges\":[\x7b\"source\":18446744073709551617," ++
    "\"target\":18446744073709551616\x7d]\x7d"

/-- The source of the edge is the node, with a sign. -/
def zeroGraph : String :=
  "\x7b\"nodes\":[\x7b\"id\":0\x7d],\"edges\":[\x7b\"source\":-0,\"target\":0\x7d]\x7d"

/-- Two integers from `2 ^ 64` on have one name, so that an edge is resolved by a node which is not its end. Zero has
another name with a sign, so that an edge is not resolved by the node which is its end. -/
theorem integers_confused :
    ((beyondNumeral 6).IsInteger ∧ (beyondNumeral 7).IsInteger ∧ (beyondNumeral 6).integer ≠ (beyondNumeral 7).integer ∧
      (beyondNumeral 6).name? = some "1.8446744073709552e+19" ∧ (beyondNumeral 7).name? = some "1.8446744073709552e+19" ∧
      (Payload.read beyondGraph).toOption.map (fun p => p.edges.map (Snapshot.ofPayload p).isResolved) = some [true]) ∧
    (zeroNumeral false).IsInteger ∧ (zeroNumeral true).IsInteger ∧ (zeroNumeral false).integer = (zeroNumeral true).integer ∧
      (zeroNumeral false).name? = some "0" ∧ (zeroNumeral true).name? = some "-0.0" ∧
      (Payload.read zeroGraph).toOption.map (fun p => p.edges.map (Snapshot.ofPayload p).isResolved) = some [false] := by
  have isInteger {d : ℕ} {c : Char} (digit : digit? c = some d) : (beyondNumeral d).IsInteger := by
    have figures : Figures [1, 8, 4, 4, 6, 7, 4, 4, 0, 7, 3, 7, 0, 9, 5, 5, 1, 6, 1, d]
        ("1844674407370955161".toList ++ [c]) := by
      simpa [Figures, digit?] using digit
    exact Whole.isInteger (.digits (.of_figures figures (by simp)) (by simp)) false
  refine ⟨⟨isInteger (c := '6') rfl, isInteger (c := '7') rfl, ?_, ?_, ?_, ?_⟩,
    Whole.isInteger .zero false, Whole.isInteger .zero true, ?_, ?_, ?_, ?_⟩ <;> decide +kernel

end GraphViewer

import Mathlib.Data.List.Permutation
import GraphViewer.Proofs.Rewriting
/-
Null in place of a list or a map. Every list and every map of an answer of the service can be left out. For the
lists of nodes, edges, labels and suggestions null means the same. For the properties of a node and the entities of
a suggestion it is a value of the wrong kind, and one of these refuses the whole answer.
-/

namespace GraphViewer

open Json

namespace Json

/-- A reading that succeeds becomes one that ends with a fault. -/
def Refuses (e : Fault) (α : Type) (x y : Except Fault α) : Prop :=
  ∀ a, x = .ok a → y = .error e

theorem Refuses.lasts (e : Fault) : Lasts (Refuses e) where
  bind f refuses b given := by
    obtain ⟨a, first, -⟩ := bind_eq_ok_iff.1 given
    rw [refuses a first]
    rfl
  after x f g refuses b given := by
    obtain ⟨a, first, later⟩ := bind_eq_ok_iff.1 given
    rw [first]
    exact refuses a first b later

/-! ## Places of a field -/

variable {ρ α : Type} {r : Record ρ α} {f : Field ρ} {t t' : Tree} {room : Nat} {s s' : ρ}
  {R : (α : Type) → Except Fault α → Except Fault α → Prop}

/-- A place for the value of a field: under its name, or among the items of a record that is an array. -/
inductive Record.Holds (r : Record ρ α) (f : Field ρ) : (Tree → Tree) → Prop
  | member {before after : List (Quoted × Tree)} {key : Quoted} {name : String} (named : key.text = .ok name)
      (found : r.fields.find? (·.answersTo name) = some f) :
      Holds r f fun t => .object (before ++ (key, t) :: after) .closed
  | item {fields later : List (Field ρ)} {items rest : List Tree} (listed : r.fields = fields ++ f :: later)
      (place : fields.length = items.length) : Holds r f fun t => .array (items ++ t :: rest) .closed

theorem Record.Holds.mem {place : Tree → Tree} (holds : r.Holds f place) : f ∈ r.fields := by
  cases holds with
  | member _ found => exact List.mem_of_find?_eq_some found
  | item listed => simp [listed]

theorem Record.Holds.alike (lasts : Lasts R) {place : Tree → Tree} (holds : r.Holds f place)
    (alike : ∀ room, R (ρ → ρ) (f.read room t) (f.read room t')) (room : Nat) :
    R α (r.decode room (place t)) (r.decode room (place t')) := by
  cases holds with
  | member named found =>
    exact decode_member lasts (readMember_alike lasts named found named found alike) room
  | item listed place => exact decode_item lasts listed place alike room

/-- A member does not name a field. -/
def Field.AbsentFrom (f : Field ρ) (m : Quoted × Tree) : Prop :=
  ∀ name, m.1.text = .ok name → f.answersTo name = false

/-- A record that leaves a field out, and the same record with null for it. -/
inductive Record.Nulled (r : Record ρ α) (f : Field ρ) : Tree → Tree → Prop
  | member {before after : List (Quoted × Tree)} {key : Quoted} {name : String} (named : key.text = .ok name)
      (found : r.fields.find? (·.answersTo name) = some f) (absent : ∀ m ∈ before ++ after, f.AbsentFrom m) :
      Nulled r f (.object (before ++ after) .closed) (.object (before ++ (key, .null) :: after) .closed)
  | item {fields later : List (Field ρ)} {items : List Tree} (listed : r.fields = fields ++ f :: later)
      (place : fields.length = items.length) : Nulled r f (.array items .closed) (.array (items ++ [.null]) .closed)

theorem Record.Nulled.mem (nulled : r.Nulled f t t') : f ∈ r.fields := by
  cases nulled with
  | member _ found => exact List.mem_of_find?_eq_some found
  | item listed => simp [listed]

/-- A field that is not named is left as it is. -/
theorem Record.Lawful.unset_takes (lawful : r.Lawful) (ofRecord : f ∈ r.fields) {m : Quoted × Tree}
    (absent : f.AbsentFrom m) (takes : r.Takes room m s s') : f.isSet s' = f.isSet s := by
  cases takes with
  | skip => rfl
  | @field _ t name g set _ named found _ reads =>
    have different : g ≠ f := by
      rintro rfl
      have answers := List.find?_some found
      rw [absent name named] at answers
      cases answers
    exact (lawful.apart.forall (List.mem_of_find?_eq_some found) ofRecord different).left room t set reads s

theorem Record.Lawful.unset_members (lawful : r.Lawful) (ofRecord : f ∈ r.fields)
    {members : List (Quoted × Tree)} (absent : ∀ m ∈ members, f.AbsentFrom m)
    (read : members.foldlM (r.readMember room) s = .ok s') : f.isSet s' = f.isSet s := by
  induction members generalizing s with
  | nil =>
    cases read
    rfl
  | cons m members ih =>
    obtain ⟨u, first, later⟩ := bind_eq_ok_iff.1 read
    rw [ih (fun m among => absent m (List.mem_cons_of_mem _ among)) later]
    exact lawful.unset_takes ofRecord (absent m List.mem_cons_self) (readMember_eq_ok_iff.1 first)

/-! ## Null for a field that was left out -/

/-- Null gives a field the value that it has when it is left out. -/
def Record.TakesNull (r : Record ρ α) (f : Field ρ) : Prop :=
  ∃ set, (∀ room, f.read room .null = .ok set) ∧ ∀ s, f.isSet s = false → r.build (set s) = r.build s

theorem Record.Lawful.agree_member (lawful : r.Lawful) (blank : f.isSet r.blank = false) (takes : r.TakesNull f)
    {before after : List (Quoted × Tree)} {key : Quoted} {name : String} (named : key.text = .ok name)
    (found : r.fields.find? (·.answersTo name) = some f) (absent : ∀ m ∈ before ++ after, f.AbsentFrom m)
    (room : Nat) : Agree (r.decode room (.object (before ++ after) .closed))
      (r.decode room (.object (before ++ (key, .null) :: after) .closed)) := by
  obtain ⟨set, reads, builds⟩ := takes
  -- the member may as well come last, where all that is left to do is to build the record
  have perm : ((before ++ after) ++ [(key, Tree.null)]).Perm (before ++ (key, Tree.null) :: after) :=
    (List.perm_append_singleton _ _).trans List.perm_middle.symm
  refine .trans ?_ (lawful.decode_perm room perm)
  clear perm
  generalize before ++ after = others at absent ⊢
  cases room with
  | zero => exact .refl _
  | succ room =>
    intro a
    simp only [decode, List.foldlM_append, List.foldlM_cons, List.foldlM_nil, bind_assoc]
    rw [bind_eq_ok_iff, bind_eq_ok_iff]
    refine exists_congr fun s => and_congr_right fun read => ?_
    have unset : f.isSet s = false := by
      rw [lawful.unset_members (List.mem_of_find?_eq_some found) absent read, blank]
    have last : r.readMember room s (key, .null) = .ok (set s) :=
      readMember_eq_ok_iff.2 (.field named found unset (reads room))
    rw [last, ← builds s unset]
    rfl

theorem Record.Lawful.refuses_member (lawful : r.Lawful) (blank : f.isSet r.blank = false) {e : Fault}
    (faults : ∀ room, f.read room .null = .error e)
    {before after : List (Quoted × Tree)} {key : Quoted} {name : String} (named : key.text = .ok name)
    (found : r.fields.find? (·.answersTo name) = some f) (absent : ∀ m ∈ before ++ after, f.AbsentFrom m)
    (room : Nat) : Refuses e α (r.decode room (.object (before ++ after) .closed))
      (r.decode room (.object (before ++ (key, .null) :: after) .closed)) := by
  have lasts := Refuses.lasts e
  refine Record.decode_object lasts ?_
  rw [List.foldlM_append, List.foldlM_append]
  refine lasts.after _ fun s read u _ => ?_
  have unset : f.isSet s = false := by
    rw [lawful.unset_members (List.mem_of_find?_eq_some found)
      (fun m among => absent m (List.mem_append_left _ among)) read, blank]
  have here : r.readMember (room - 1) s (key, .null) = .error e := by
    rw [readMember_named named found, unset, faults]
    rfl
  rw [List.foldlM_cons, here]
  rfl

/-- Fields that are left out at the end of an array change nothing, if the record can do without them. -/
theorem Record.readItems_nil (r : Record ρ α) (room : Nat) (fields : List (Field ρ)) (count : Nat) :
    (∀ s, r.readItems room .closed fields [] count s = .ok s) ∨
      ∃ e, ∀ s, r.readItems room .closed fields [] count s = .error e := by
  induction fields generalizing count with
  | nil => exact .inl fun s => rfl
  | cons f fields ih =>
    cases needed : f.required with
    | true =>
      refine .inr ⟨.short count r.name r.fields.length, fun s => ?_⟩
      simp only [readItems, needed]
      rfl
    | false =>
      simp only [readItems, needed]
      exact ih (count + 1)

theorem Record.Lawful.readItems_null (lasts : Lasts R) {fields later : List (Field ρ)}
    (apart : ∀ g ∈ fields, g.Apart f) {items : List Tree} (place : fields.length = items.length) {count : Nat}
    (unset : f.isSet s = false)
    (here : ∀ count s, f.isSet s = false → R α (r.readItems room .closed (f :: later) [] count s >>= r.build)
      (r.readItems room .closed (f :: later) [.null] count s >>= r.build)) :
    R α (r.readItems room .closed (fields ++ f :: later) items count s >>= r.build)
      (r.readItems room .closed (fields ++ f :: later) (items ++ [.null]) count s >>= r.build) := by
  induction fields generalizing items count s with
  | nil =>
    obtain rfl := List.length_eq_zero_iff.1 place.symm
    exact here count s unset
  | cons g fields ih =>
    cases items with
    | nil => cases place
    | cons t items =>
      simp only [List.cons_append, readItems, bind_assoc]
      refine lasts.after _ fun set reads => ih (fun g among => apart g (List.mem_cons_of_mem _ among))
        (Nat.succ.inj place) ?_
      rw [(apart g List.mem_cons_self).left room t set reads, unset]

theorem Record.Lawful.null_item (lawful : r.Lawful) (lasts : Lasts R) (blank : f.isSet r.blank = false)
    {fields later : List (Field ρ)} {items : List Tree} (listed : r.fields = fields ++ f :: later)
    (place : fields.length = items.length)
    (here : ∀ room count s, f.isSet s = false → R α (r.readItems room .closed (f :: later) [] count s >>= r.build)
      (r.readItems room .closed (f :: later) [.null] count s >>= r.build)) (room : Nat) :
    R α (r.decode room (.array items .closed)) (r.decode room (.array (items ++ [.null]) .closed)) := by
  have apart := lawful.apart
  rw [listed, List.pairwise_append] at apart
  cases room with
  | zero => exact lasts.error _
  | succ room =>
    simp only [decode, listed]
    exact readItems_null lasts (fun g among => apart.2.2 g among f List.mem_cons_self) place blank (here room)

/-- Where null is what the field is without it, it makes no difference. -/
theorem Record.Lawful.agree_nulled (lawful : r.Lawful) (blank : f.isSet r.blank = false)
    (spare : f.required = false) (takes : r.TakesNull f) (nulled : r.Nulled f t t') (room : Nat) :
    Agree (r.decode room t) (r.decode room t') := by
  cases nulled with
  | member named found absent => exact lawful.agree_member blank takes named found absent room
  | @item _ later _ listed place =>
    obtain ⟨set, reads, builds⟩ := takes
    refine lawful.null_item Agree.lasts blank listed place (fun room count s unset => ?_) room
    simp only [readItems, spare, reads]
    show Agree (r.readItems room .closed later [] (count + 1) s >>= r.build)
      (r.readItems room .closed later [] (count + 1) (set s) >>= r.build)
    rcases r.readItems_nil room later (count + 1) with all | ⟨e, none⟩
    · rw [all, all]
      show Agree (r.build s) (r.build (set s))
      rw [builds s unset]
      exact .refl _
    · rw [none, none]
      exact .refl _

/-- Where the field faults null, so does the record. -/
theorem Record.Lawful.refuses_nulled (lawful : r.Lawful) (blank : f.isSet r.blank = false) {e : Fault}
    (faults : ∀ room, f.read room .null = .error e) (nulled : r.Nulled f t t') (room : Nat) :
    Refuses e α (r.decode room t) (r.decode room t') := by
  cases nulled with
  | member named found absent => exact lawful.refuses_member blank faults named found absent room
  | item listed place =>
    refine lawful.null_item (Refuses.lasts e) blank listed place (fun room count s _ a _ => ?_) room
    simp only [readItems, faults]
    rfl

end Json

/-! ## Lists and maps of the service -/

/-- The lists and maps in an answer of the service. -/
inductive Container where
  | nodes
  | edges
  | labels
  | properties
  | suggestions
  | entities

namespace Container

/-- What the object is read as that has the list or map. -/
def kind : Container → Kind
  | nodes | edges => .graph
  | labels | properties => .node
  | suggestions => .suggestions
  | entities => .suggestion

def name : Container → String
  | nodes => "nodes"
  | edges => "edges"
  | labels => "labels"
  | properties => "properties"
  | suggestions => "suggestions"
  | entities => "entity_ids"

def field (c : Container) : Json.Field c.kind.Draft :=
  (c.kind.record.fields.find? (·.name == c.name)).get (by cases c <;> rfl)

/-- What the items are read as, if they are objects. -/
def items? : Container → Option Kind
  | nodes => some .node
  | edges => some .edge
  | suggestions => some .suggestion
  | labels | properties | entities => none

/-- Null is a list without items. -/
def nullable : Container → Bool
  | nodes | edges | labels | suggestions => true
  | properties | entities => false

/-- What stands there but for null. -/
def expected : Container → Expected
  | properties => .object
  | nodes | edges | labels | suggestions | entities => .array

theorem takesNull {c : Container} (nullable : c.nullable = true) :
    c.field.required = false ∧ c.kind.record.TakesNull c.field := by
  cases c with
  | nodes =>
    refine ⟨rfl, _, fun room => rfl, fun s unset => ?_⟩
    obtain ⟨_ | _, _, _⟩ := s
    · rfl
    · cases unset
  | edges =>
    refine ⟨rfl, _, fun room => rfl, fun s unset => ?_⟩
    obtain ⟨_, _ | _, _⟩ := s
    · rfl
    · cases unset
  | labels =>
    refine ⟨rfl, _, fun room => rfl, fun s unset => ?_⟩
    obtain ⟨_, _ | _, _⟩ := s
    · rfl
    · cases unset
  | suggestions =>
    refine ⟨rfl, _, fun room => rfl, fun s unset => ?_⟩
    obtain ⟨_ | _, _⟩ := s
    · rfl
    · cases unset
  | properties | entities => cases nullable

theorem faultsNull {c : Container} (nullable : c.nullable = false) (room : Nat) :
    c.field.read room .null = .error (.wrongKind .null c.expected) := by
  cases c with
  | properties | entities => cases room <;> rfl
  | nodes | edges | labels | suggestions => cases nullable

variable {R : (α : Type) → Except Fault α → Except Fault α → Prop}

/-- A list is read alike if an object in it is. -/
theorem read_alike (lasts : Lasts R) {c : Container} {inner : Kind} (items : c.items? = some inner)
    {front back : List Tree} {t t' : Tree}
    (alike : ∀ room, R inner.Value (inner.record.decode room t) (inner.record.decode room t')) (room : Nat) :
    R (c.kind.Draft → c.kind.Draft) (c.field.read room (.array (front ++ t :: back) .closed))
      (c.field.read room (.array (front ++ t' :: back) .closed)) := by
  cases c <;> cases items <;> exact lasts.bind _ (Decode.listOrNull_alike lasts alike room)

end Container

theorem Kind.blank_unset (k : Kind) : ∀ f ∈ k.record.fields, f.isSet k.record.blank = false := by
  have every : (k.record.fields.all fun f => !f.isSet k.record.blank) = true := by cases k <;> rfl
  simpa using every

/-- Somewhere in a document null comes in for a list or a map that was left out. -/
inductive NullGiven (c : Container) : Kind → Tree → Tree → Prop
  | here {t t' : Tree} : c.kind.record.Nulled c.field t t' → NullGiven c c.kind t t'
  | inside {list : Container} {inner : Kind} {place : Tree → Tree} {front back : List Tree} {t t' : Tree}
      (items : list.items? = some inner) (holds : list.kind.record.Holds list.field place) :
      NullGiven c inner t t' → NullGiven c list.kind (place (.array (front ++ t :: back) .closed))
        (place (.array (front ++ t' :: back) .closed))

variable {c : Container} {k : Kind} {t t' : Tree} {text text' : String}

theorem NullGiven.alike {R : (α : Type) → Except Fault α → Except Fault α → Prop} (lasts : Lasts R)
    (here : ∀ t t', c.kind.record.Nulled c.field t t' →
      ∀ room, R c.kind.Value (c.kind.record.decode room t) (c.kind.record.decode room t'))
    (given : NullGiven c k t t') (room : Nat) : R k.Value (k.record.decode room t) (k.record.decode room t') := by
  induction given generalizing room with
  | here nulled => exact here _ _ nulled room
  | inside items holds _ ih => exact holds.alike lasts (Container.read_alike lasts items ih) room

/-- What becomes of a reading with null for a list or a map that was left out. -/
structure ReadsNull (c : Container) {α : Type} (x y : Except Fault α) : Prop where
  /-- Null makes no difference, -/
  empty : c.nullable = true → Agree x y
  /-- or else what was read is refused for it. -/
  refused : c.nullable = false → Refuses (.wrongKind .null c.expected) α x y

theorem readsNull_of_given (spells : Spells text t) (spells' : Spells text' t') (given : NullGiven c k t t') :
    ReadsNull c (decode k.record.decode text) (decode k.record.decode text') where
  empty nullable := by
    obtain ⟨spare, takes⟩ := c.takesNull nullable
    refine decode_alike Agree.lasts spells spells' (given.alike Agree.lasts fun t t' nulled => ?_)
    exact c.kind.lawful.agree_nulled (c.kind.blank_unset _ nulled.mem) spare takes nulled
  refused nullable := by
    have lasts := Refuses.lasts (.wrongKind .null c.expected)
    refine decode_alike lasts spells spells' (given.alike lasts fun t t' nulled => ?_)
    exact c.kind.lawful.refuses_nulled (c.kind.blank_unset _ nulled.mem) (c.faultsNull nullable) nulled

/-- A text is read, or not, as another one that leaves out what it gives as null. -/
structure NullsRead (text text' : String) (t t' : Tree) : Prop where
  graph : ∀ c, NullGiven c .graph t t' → ReadsNull c (Payload.read text) (Payload.read text')
  suggestions : ∀ c, NullGiven c .suggestions t t' → ReadsNull c (Suggestions.read text) (Suggestions.read text')

/-- Null for a list of nodes, edges, labels or suggestions is like leaving it out, wherever it stands. Null for
the properties of a node or the entities of a suggestion always refuses a document that could be read without. -/
theorem nulls_read (spells : Spells text t) (spells' : Spells text' t') : NullsRead text text' t t' where
  graph _ given := readsNull_of_given spells spells' given
  suggestions _ given := readsNull_of_given spells spells' given

/-! ## Closed documents -/

/-- A graph of one node, of which this is given beside its id. -/
def graphTree (given : List (Quoted × Tree)) : Tree :=
  .object [(.plain "nodes", .array [.object ((.plain "id", .string (.plain "a")) :: given) .closed] .closed)] .closed

def bareGraph : String :=
  "\x7b\"nodes\":[\x7b\"id\":\"a\"\x7d]\x7d"

def nullLabels : String :=
  "\x7b\"nodes\":[\x7b\"id\":\"a\",\"labels\":null\x7d]\x7d"

theorem spells_bareGraph : Spells bareGraph (graphTree []) := by
  refine ⟨_, .object (.last rfl (.array (.last (.object (.last rfl (.string rfl)))))), ?_⟩
  have ends : Writes [] [] := .done (by simp)
  have writes := Writes.tight (.mark (c := '\x7b') rfl) <|
    .tight (.plain (s := "nodes") (by simp [plainChar])) <| .tight (.mark (c := ':') rfl) <|
    .tight (.mark (c := '[') rfl) <| .tight (.mark (c := '\x7b') rfl) <|
    .tight (.plain (s := "id") (by simp [plainChar])) <| .tight (.mark (c := ':') rfl) <|
    .tight (.plain (s := "a") (by simp [plainChar])) <|
    .tight (.mark (c := '\x7d') rfl) <| .tight (.mark (c := ']') rfl) <| .tight (.mark (c := '\x7d') rfl) ends
  simpa [bareGraph] using writes

theorem spells_nullLabels : Spells nullLabels (graphTree [(.plain "labels", .null)]) := by
  refine ⟨_, .object (.last rfl (.array (.last (.object (.more rfl (.string rfl) (.last rfl .null)))))), ?_⟩
  have ends : Writes [] [] := .done (by simp)
  have writes := Writes.tight (.mark (c := '\x7b') rfl) <|
    .tight (.plain (s := "nodes") (by simp [plainChar])) <| .tight (.mark (c := ':') rfl) <|
    .tight (.mark (c := '[') rfl) <| .tight (.mark (c := '\x7b') rfl) <|
    .tight (.plain (s := "id") (by simp [plainChar])) <| .tight (.mark (c := ':') rfl) <|
    .tight (.plain (s := "a") (by simp [plainChar])) <| .tight (.mark (c := ',') rfl) <|
    .tight (.plain (s := "labels") (by simp [plainChar])) <| .tight (.mark (c := ':') rfl) <| .tight .null <|
    .tight (.mark (c := '\x7d') rfl) <| .tight (.mark (c := ']') rfl) <| .tight (.mark (c := '\x7d') rfl) ends
  simpa [nullLabels] using writes

theorem given_nullLabels : NullGiven .labels .graph (graphTree []) (graphTree [(.plain "labels", .null)]) := by
  have absent : ∀ m ∈ [(Quoted.plain "id", Tree.string (.plain "a"))] ++ [],
      Container.labels.field.AbsentFrom m := by
    rintro m among name named
    rw [List.mem_singleton.1 among, Quoted.text_plain] at named
    cases named
    rfl
  have nulled := @Record.Nulled.member _ _ Container.labels.kind.record _ _ _ _ _ (Quoted.text_plain "labels") rfl absent
  have holds : Container.nodes.kind.record.Holds Container.nodes.field
      fun t => .object ([] ++ (.plain "nodes", t) :: []) .closed :=
    .member (Quoted.text_plain "nodes") rfl
  exact @NullGiven.inside .labels .nodes .node _ [] [] _ _ rfl holds (.here nulled)

/-- Labels may be null. -/
theorem nulls_read_labels : Spells bareGraph (graphTree []) ∧
    Spells nullLabels (graphTree [(.plain "labels", .null)]) ∧
    NullGiven .labels .graph (graphTree []) (graphTree [(.plain "labels", .null)]) ∧
    Agree (Payload.read bareGraph) (Payload.read nullLabels) ∧
    Payload.read bareGraph = .ok ⟨[⟨"a", [], []⟩], [], false⟩ := by
  refine ⟨spells_bareGraph, spells_nullLabels, given_nullLabels, ?_, by cbv⟩
  exact ((nulls_read spells_bareGraph spells_nullLabels).graph _ given_nullLabels).empty rfl

/-- The properties of a node may be left out, but may not be null, and neither may the entities of a suggestion. -/
theorem null_refused :
    Payload.read bareGraph = .ok ⟨[⟨"a", [], []⟩], [], false⟩ ∧
    Payload.read "\x7b\"nodes\":[\x7b\"id\":\"a\",\"properties\":null\x7d]\x7d" =
      .error (.wrongKind .null .object) ∧
    (Suggestions.read "\x7b\"suggestions\":[\x7b\"id\":\"a\"\x7d]\x7d").toOption =
      some ⟨[⟨"a", [], 0.0, "", none⟩], 0⟩ ∧
    Suggestions.read "\x7b\"suggestions\":[\x7b\"id\":\"a\",\"entity_ids\":null\x7d]\x7d" =
      .error (.wrongKind .null .array) :=
  ⟨by cbv, by cbv, by decide +kernel, by cbv⟩

end GraphViewer

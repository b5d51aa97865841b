import GraphViewer.Proofs.Addresses
/-
What becomes of the ids in an address when it is resolved. Encoding makes a segment of its own of any id that is
not empty. But it leaves dots alone, and a segment of one or two dots does not stay in a path that is resolved:
the first stands for the place where it is, and the second goes back by one. So an address leads where it was
meant to just if none of its ids is one of these two.
-/

namespace GraphViewer

/-! ## Resolving -/

namespace Path

/-- The spellings of a dot in a segment. -/
def dots : List String :=
  [".", "%2e", "%2E"]

def isSingleDot (s : String) : Bool :=
  dots.contains s

def isDoubleDot (s : String) : Bool :=
  (dots.flatMap fun a => dots.map (a ++ ·)).contains s

/-- A dot segment that ends the path leaves an empty segment there. -/
def ending (rest before : List String) : List String :=
  if rest.isEmpty then "" :: before else before

/-- A path as it is resolved, where `before` is what is left of the segments in front of it, nearest first. -/
def resolve (before : List String) : List String → List String
  | [] => before.reverse
  | s :: rest =>
    if isSingleDot s then resolve (ending rest before) rest
    else if isDoubleDot s then resolve (ending rest before.tail) rest
    else resolve (s :: before) rest

def isDot (s : String) : Bool :=
  isSingleDot s || isDoubleDot s

theorem countP_ending (rest before : List String) : (ending rest before).countP isDot = before.countP isDot := by
  unfold ending
  split
  · exact List.countP_cons_of_neg (by decide +kernel)
  · rfl

/-- Resolving leaves no dot segment that was not left before. -/
theorem countP_resolve_le (before path : List String) :
    (resolve before path).countP isDot ≤ before.countP isDot := by
  induction path generalizing before with
  | nil => exact Nat.le_of_eq List.countP_reverse
  | cons s rest ih =>
    unfold resolve
    split
    · exact Nat.le_trans (ih _) (Nat.le_of_eq (countP_ending rest before))
    · split
      · calc (resolve (ending rest before.tail) rest).countP isDot
            ≤ (ending rest before.tail).countP isDot := ih _
          _ = before.tail.countP isDot := countP_ending rest _
          _ ≤ before.countP isDot := (List.tail_sublist before).countP_le
      · rename_i single double
        have stays : ¬ isDot s = true := by simp [isDot, single, double]
        exact Nat.le_trans (ih _) (Nat.le_of_eq (List.countP_cons_of_neg stays))

theorem resolve_eq_iff {before path : List String} :
    resolve before path = before.reverse ++ path ↔ ∀ s ∈ path, ¬ isDot s = true := by
  constructor
  · intro stays
    have few := countP_resolve_le before path
    rw [stays, List.countP_append, List.countP_reverse] at few
    exact List.countP_eq_zero.1 (by omega)
  · intro none
    induction path generalizing before with
    | nil => exact (List.append_nil _).symm
    | cons s rest ih =>
      have ⟨single, double⟩ : isSingleDot s = false ∧ isDoubleDot s = false := by
        simpa [isDot] using none s List.mem_cons_self
      have later : resolve (s :: before) rest = (s :: before).reverse ++ rest :=
        ih fun t among => none t (List.mem_cons_of_mem _ among)
      simp [resolve, single, double, later]

end Path

open GraphViewer.Path

/-! ## Encoded ids -/

theorem percentEncode_eq_iff (text : String) {plain : String} (same : Text.percentEncode plain = plain) :
    Text.percentEncode text = plain ↔ text = plain := by
  rw [← Text.percentEncode_injective.eq_iff (a := text), same]

/-- Only dots are encoded as dots: a per cent sign is encoded itself. -/
theorem isDot_percentEncode_iff (text : String) :
    isDot (Text.percentEncode text) = true ↔ text ∈ [".", ".."] := by
  constructor
  · intro dot
    have read := Text.percentDecode?_percentEncode text
    have spelling : Text.percentEncode text ∈ dots ++ dots.flatMap fun a => dots.map (a ++ ·) := by
      simpa only [isDot, isSingleDot, isDoubleDot, Bool.or_eq_true, List.contains_iff_mem, List.mem_append] using dot
    have every : ∀ s ∈ dots ++ dots.flatMap fun a => dots.map (a ++ ·),
        ∀ t ∈ Text.percentDecode? s, t ∈ [".", ".."] := by decide +kernel
    exact every _ spelling text read
  · have every : ∀ t ∈ [".", ".."], isDot (Text.percentEncode t) = true := by decide +kernel
    exact every text

/-- A segment is not empty, nothing in it ends it, and resolving does not remove it. -/
structure StandsAlone (segment : String) : Prop where
  nonempty : segment ≠ ""
  whole : ∀ c ∈ ['/', '?', '#'], c ∉ segment.toList
  stays : segment ∉ [".", ".."]

theorem standsAlone_percentEncode_iff (text : String) :
    StandsAlone (Text.percentEncode text) ↔ text ∉ ["", ".", ".."] := by
  have empty : Text.percentEncode text = "" ↔ text = "" := percentEncode_eq_iff text (by decide +kernel)
  have one : Text.percentEncode text = "." ↔ text = "." := percentEncode_eq_iff text (by decide +kernel)
  have two : Text.percentEncode text = ".." ↔ text = ".." := percentEncode_eq_iff text (by decide +kernel)
  simp only [List.mem_cons, List.not_mem_nil, or_false, not_or]
  constructor
  · rintro ⟨nonempty, _, stays⟩
    simp only [List.mem_cons, List.not_mem_nil, or_false, not_or, one, two] at stays
    exact ⟨mt empty.2 nonempty, stays⟩
  · rintro ⟨nonempty, stays⟩
    refine ⟨mt empty.1 nonempty, fun c special => Text.not_mem_percentEncode text special, ?_⟩
    simpa [one, two] using stays

namespace Request

/-- The ids in a request's address. -/
def ids : Request → List String
  | graph collection _ => [collection.text]
  | suggestions collection => [collection.text]
  | action collection suggestion _ => [collection.text, suggestion]

theorem mem_ids_iff (r : Request) (text : String) : text ∈ r.ids ↔ .id text ∈ r.parts := by
  rcases r with ⟨b, _ | _⟩ | b | ⟨b, t, _⟩ <;> simp [ids, parts]

/-- Among the parts of an address only ids can be dot segments. -/
theorem stay_iff (r : Request) :
    (∀ s ∈ r.parts.tail.map AddressPart.written, ¬ isDot s = true) ↔ ∀ text ∈ r.ids, text ∉ [".", ".."] := by
  have words : ∀ word ∈ ["collections", "graphs", "marketplace", "graph", "merge-suggestions", "action"],
      isDot word = false := by decide +kernel
  simp only [List.mem_cons, List.not_mem_nil, or_false, forall_eq_or_imp, forall_eq] at words
  rcases r with ⟨b, _ | _⟩ | b | ⟨b, t, _⟩ <;>
    simp [parts, ids, AddressPart.written, words, isDot_percentEncode_iff, -Bool.not_eq_true]

theorem parts_eq_cons (r : Request) : r.parts = .word "" :: r.parts.tail := by
  rcases r with ⟨b, _ | _⟩ | b | ⟨b, t, _⟩ <;> rfl

end Request

namespace Client

variable (c : Client)

/-- The segments that an address adds to those of the client's base. -/
def added (r : Request) : List String :=
  (c.segments (c.url r)).tail

theorem added_eq (r : Request) : c.added r = r.parts.tail.map AddressPart.written := by
  rw [added, segments_url, List.map_tail]

theorem resolve_added_iff (r : Request) (before : List String) :
    resolve before (c.added r) = before.reverse ++ c.added r ↔ ∀ text ∈ r.ids, text ∉ [".", ".."] := by
  rw [resolve_eq_iff, added_eq, r.stay_iff]

/-- How ids stand in addresses, and when they are still there once these are resolved. -/
structure IdsStay : Prop where
  /-- The parts of an address are its segments, and its ids are among them. -/
  segments : ∀ r : Request, c.segments (c.url r) = r.parts.map AddressPart.written
  ids : ∀ (r : Request) (text : String), text ∈ r.ids ↔ .id text ∈ r.parts
  /-- A collection's id stands alone unless it is of one or two dots, -/
  collection : ∀ b : CollectionId,
    StandsAlone (AddressPart.id b.text).written ↔ b.text ∉ [".", ".."]
  /-- and so does a suggestion's id that is not empty. -/
  suggestion : ∀ text : String, StandsAlone (AddressPart.id text).written ↔ text ∉ ["", ".", ".."]
  /-- Whatever comes before it, an address is not changed by being resolved just if no id is of one or two
  dots, -/
  resolved : ∀ (r : Request) (before : List String),
    resolve before (c.added r) = before.reverse ++ c.added r ↔ ∀ text ∈ r.ids, text ∉ [".", ".."]
  /-- and then it cannot be taken for the address of another request. -/
  apart : ∀ (r s : Request) (before : List String), (∀ text ∈ r.ids ++ s.ids, text ∉ [".", ".."]) →
    resolve before (c.added r) = resolve before (c.added s) → r.destination = s.destination

theorem ids_stay : c.IdsStay where
  segments := c.segments_url
  ids := Request.mem_ids_iff
  collection b := by
    rw [AddressPart.written, standsAlone_percentEncode_iff, List.mem_cons, not_or]
    exact and_iff_right b.notBlank
  suggestion text := standsAlone_percentEncode_iff text
  resolved := c.resolve_added_iff
  apart r s before plain same := by
    rw [(c.resolve_added_iff r before).2 fun t among => plain t (List.mem_append_left _ among),
      (c.resolve_added_iff s before).2 fun t among => plain t (List.mem_append_right _ among),
      List.append_cancel_left_eq, added_eq, added_eq] at same
    apply Request.destination_eq
    rw [r.parts_eq_cons, s.parts_eq_cons, List.map_cons, List.map_cons, same]

/-! ## Ids of dots -/

/-- A suggestion without an id to speak of. -/
def namelessSuggestion : String :=
  "\x7b\"suggestions\":[\x7b\"id\":\"\"\x7d]\x7d"

/-- Two dots are the id of a collection, and the address of its graph is resolved to one that lies outside all
collections. An empty text is the id of a suggestion, and the segment for it is empty. -/
theorem dots_lead_astray : ∃ (c : Client) (b : CollectionId), CollectionId.ofText? ".." = some b ∧
    c.url (.graph b .owned) = "/api/v1/collections/../graphs" ∧
    resolve ["v1", "api", ""] (c.added (.graph b .owned)) = ["", "api", "v1", "graphs"] ∧
    ¬ StandsAlone (AddressPart.id b.text).written ∧
    (Suggestions.read namelessSuggestion).toOption.map (·.items.map Suggestion.id) = some [""] ∧
    c.url (.action b "" .accept) = "/api/v1/collections/../graphs/merge-suggestions//action" ∧
    ¬ StandsAlone (AddressPart.id "").written := by
  have isId : CollectionId.ofText? ".." = some ⟨"..", by decide +kernel, by decide⟩ := by decide +kernel
  have dots : ¬ StandsAlone (Text.percentEncode "..") := fun alone => alone.stays (by decide +kernel)
  have empty : ¬ StandsAlone (Text.percentEncode "") := fun alone => alone.nonempty (by decide +kernel)
  exact ⟨ofConfig {}, _, isId, by decide +kernel, by decide +kernel, dots, by decide +kernel,
    by decide +kernel, empty⟩

end Client

end GraphViewer

import Mathlib.Data.List.Forall2
import GraphViewer.Service.Request
/-
Addresses tell requests apart, and give back the ids that were written into them.
-/

namespace GraphViewer

namespace Text

theorem upperHexDigit_spec {n : Nat} (digit : n < 16) :
    upperHexValue? (upperHexDigit n) = some n ∧ upperHexDigit n ∉ ['/', '?', '#'] := by
  have every : ∀ n : Fin 16,
      upperHexValue? (upperHexDigit n) = some n.val ∧ upperHexDigit n ∉ ['/', '?', '#'] := by decide
  exact every ⟨n, digit⟩

/-- An unreserved byte is a character of its own, and none that means something in an address. -/
theorem isUnreserved_spec {b : UInt8} (plain : isUnreserved b = true) :
    String.utf8EncodeChar (Char.ofNat b.toNat) = [b] ∧ Char.ofNat b.toNat ∉ ['%', '/', '?', '#'] := by
  obtain ⟨ascii, listed⟩ := Bool.and_eq_true_iff.1 plain
  have small : b.toNat < 128 := by simpa [UInt8.lt_iff_toNat_lt] using ascii
  have back : (Char.ofNat b.toNat).val.toNat = b.toNat := by
    have valid : b.toNat.isValidChar := Or.inl (by omega)
    rw [Char.ofNat, dif_pos valid]
    rfl
  constructor
  · have one : (Char.ofNat b.toNat).utf8Size = 1 := by
      rw [Char.utf8Size_eq_one_iff, UInt32.le_iff_toNat_le, back]
      exact Nat.le_of_lt_succ small
    rw [String.utf8EncodeChar_eq_singleton one]
    congr 1
    apply UInt8.toNat.inj
    rw [UInt32.toNat_toUInt8, back, Nat.mod_eq_of_lt (by omega)]
  · intro special
    generalize Char.ofNat b.toNat = c at *
    simp only [List.mem_cons, List.not_mem_nil, or_false] at special
    rcases special with rfl | rfl | rfl | rfl <;> revert listed <;> decide

theorem percentBytes?_percentByte (b : UInt8) (rest : List Char) :
    percentBytes? (percentByte b ++ rest) = (percentBytes? rest).map (b :: ·) := by
  unfold percentByte
  split
  · rename_i plain
    obtain ⟨alone, special⟩ := isUnreserved_spec plain
    generalize Char.ofNat b.toNat = c at alone special
    simp only [List.mem_cons, not_or] at special
    simp [percentBytes?, special.1, alone]
  · have small := b.toNat_lt
    have high := (upperHexDigit_spec (n := b.toNat / 16) (by omega)).1
    have low := (upperHexDigit_spec (n := b.toNat % 16) (by omega)).1
    have whole : UInt8.ofNat (16 * (b.toNat / 16) + b.toNat % 16) = b := by
      rw [Nat.div_add_mod, UInt8.ofNat_toNat]
    simp only [List.cons_append, List.nil_append, percentBytes?, high, low]
    cases percentBytes? rest
    · rfl
    · exact congrArg (fun b => some (b :: _)) whole

theorem percentBytes?_flatMap (bytes : List UInt8) :
    percentBytes? (bytes.flatMap percentByte) = some bytes := by
  induction bytes with
  | nil => rfl
  | cons b bytes ih => rw [List.flatMap_cons, percentBytes?_percentByte, ih, Option.map_some]

theorem fromUTF8?_utf8 (s : String) : String.fromUTF8? ⟨(utf8 s).toArray⟩ = some s := by
  have bytes : (⟨(utf8 s).toArray⟩ : ByteArray) = s.toByteArray := by
    calc (⟨(utf8 s).toArray⟩ : ByteArray) = s.toList.utf8Encode :=
          ByteArray.ext List.data_toByteArray.symm
      _ = s.toByteArray := by rw [← String.toByteArray_ofList, String.ofList_toList]
  rw [bytes, String.fromUTF8?, dif_pos s.isValidUTF8]
  rfl

theorem percentDecode?_percentEncode (s : String) : percentDecode? (percentEncode s) = some s := by
  simp [percentDecode?, percentEncode, percentBytes?_flatMap, fromUTF8?_utf8]

/-- An encoded text holds nothing that ends a part of an address. -/
theorem not_mem_percentEncode (s : String) {c : Char} (special : c ∈ ['/', '?', '#']) :
    c ∉ (percentEncode s).toList := by
  simp only [percentEncode, String.toList_ofList, List.mem_flatMap, not_exists, not_and]
  intro b _ among
  have small := b.toNat_lt
  unfold percentByte at among
  split at among
  · rename_i plain
    rw [List.mem_singleton] at among
    exact (isUnreserved_spec plain).2 (among ▸ List.mem_cons_of_mem _ special)
  · simp only [List.mem_cons, List.not_mem_nil, or_false] at among
    rcases among with rfl | rfl | rfl
    · revert special; decide
    · exact (upperHexDigit_spec (by omega)).2 special
    · exact (upperHexDigit_spec (by omega)).2 special

theorem percentEncode_injective : Function.Injective percentEncode := by
  intro s t same
  exact Option.some.inj (by rw [← percentDecode?_percentEncode s, same, percentDecode?_percentEncode])

end Text

theorem not_mem_intercalate {α : Type _} {x separator : α} {pieces : List (List α)} (other : x ≠ separator)
    (none : ∀ piece ∈ pieces, x ∉ piece) : x ∉ [separator].intercalate pieces := by
  induction pieces with
  | nil => simp
  | cons piece rest ih =>
    have later := ih fun p among => none p (List.mem_cons_of_mem _ among)
    cases rest with
    | nil => simpa using none piece
    | cons next rest => simp [List.intercalate_cons_cons, none piece, other, later]

/-- A part of a request's address: a word of the service, or an id of which any text may be one. -/
inductive AddressPart where
  | word (text : String)
  | id (text : String)

namespace AddressPart

def written : AddressPart → String
  | word text => text
  | id text => Text.percentEncode text

/-- What a part says is in a text: a word by itself, an id once it is decoded. -/
def ReadFrom : AddressPart → String → Prop
  | word text, s => s = text
  | id text, s => Text.percentDecode? s = some text

theorem readFrom_written (p : AddressPart) : p.ReadFrom p.written := by
  cases p with
  | word => rfl
  | id text => exact Text.percentDecode?_percentEncode text

end AddressPart

/-- What a request is for, the answer to a suggestion aside. -/
inductive Destination where
  | graph (collection : CollectionId) (access : Access)
  | suggestions (collection : CollectionId)
  | action (collection : CollectionId) (suggestion : String)

namespace Request

def destination : Request → Destination
  | graph collection access => .graph collection access
  | suggestions collection => .suggestions collection
  | action collection suggestion _ => .action collection suggestion

/-- The parts between the slashes of a request's address, the first of them before the first slash. -/
def parts : Request → List AddressPart
  | graph collection .owned => [.word "", .word "collections", .id collection.text, .word "graphs"]
  | graph collection .marketplace =>
    [.word "", .word "marketplace", .word "collections", .id collection.text, .word "graph"]
  | suggestions collection =>
    [.word "", .word "collections", .id collection.text, .word "graphs", .word "merge-suggestions"]
  | action collection suggestion _ =>
    [.word "", .word "collections", .id collection.text, .word "graphs", .word "merge-suggestions",
      .id suggestion, .word "action"]

theorem destination_eq {r s : Request}
    (same : r.parts.map AddressPart.written = s.parts.map AddressPart.written) :
    r.destination = s.destination := by
  have ids {b d : CollectionId} : b.text = d.text → b = d := by
    cases b; cases d; simp
  rcases r with ⟨b, _ | _⟩ | b | ⟨b, t, _⟩ <;> rcases s with ⟨d, _ | _⟩ | d | ⟨d, u, _⟩ <;>
    simp [parts, AddressPart.written, Text.percentEncode_injective.eq_iff] at same
  · rw [ids same]
  · rw [ids same]
  · exact congrArg Destination.suggestions (ids same)
  · exact congrArg₂ Destination.action (ids same.1) same.2

/-- No part holds what ends a part or the path. -/
theorem not_mem_written (r : Request) {special : Char} (among : special ∈ ['/', '?']) :
    ∀ p ∈ r.parts, special ∉ p.written.toList := by
  have ids := fun text => Text.not_mem_percentEncode text (List.mem_append_left ['#'] among)
  have words : ∀ special ∈ ['/', '?'], ∀ word ∈ ["", "collections", "graphs", "marketplace", "graph",
      "merge-suggestions", "action"], special ∉ word.toList := by simp
  have words := words special among
  simp only [List.mem_cons, List.not_mem_nil, or_false, forall_eq_or_imp, forall_eq] at words
  rcases r with ⟨b, _ | _⟩ | b | ⟨b, t, _⟩ <;>
    simp only [parts, List.mem_cons, List.not_mem_nil, or_false, forall_eq_or_imp, forall_eq,
      AddressPart.written, ids, words, not_false_eq_true, and_self]

end Request

namespace Client

variable (c : Client) (r : Request)

/-- The texts between the slashes of an address, from where the client's base ends to where the query
begins. -/
def segments (url : String) : List String :=
  (((url.toList.drop c.base.length).takeWhile (· != '?')).splitOn '/').map String.ofList

/-- What an address asks for beside the path: how many nodes a graph may have. -/
def query : Request → String
  | .graph _ _ => c.maxNodes.elim "" ("?max_nodes=" ++ toString ·)
  | _ => ""

theorem takeWhile_query : (c.query r).toList.takeWhile (· != '?') = [] := by
  cases r <;> simp only [query, String.toList_empty, List.takeWhile_nil]
  cases c.maxNodes <;> simp

/-- How an address is written: the base, the parts with a slash between them, and the query. -/
theorem url_eq : (c.url r).toList =
    c.base.toList ++ (['/'].intercalate (r.parts.map (·.written.toList)) ++ (c.query r).toList) := by
  rcases r with ⟨b, _ | _⟩ | b | ⟨b, t, _⟩
  · cases limit : c.maxNodes <;> simp [url, graphUrl, query, limit, Request.parts, AddressPart.written]
  · cases limit : c.maxNodes <;> simp [url, graphUrl, query, limit, Request.parts, AddressPart.written]
  · simp [url, suggestionsUrl, query, Request.parts, AddressPart.written]
  · simp [url, suggestionsUrl, actionUrl, query, Request.parts, AddressPart.written]

theorem segments_url : c.segments (c.url r) = r.parts.map AddressPart.written := by
  have apart {special : Char} (among : special ∈ ['/', '?']) :
      ∀ piece ∈ r.parts.map (·.written.toList), special ∉ piece := by
    simpa using r.not_mem_written among
  have path : ∀ ch ∈ ['/'].intercalate (r.parts.map (·.written.toList)), (ch != '?') = true := by
    intro ch among
    rw [bne_iff_ne]
    rintro rfl
    exact not_mem_intercalate (by decide) (apart (by decide)) among
  have some : r.parts.map (·.written.toList) ≠ [] := by
    rcases r with ⟨b, _ | _⟩ | b | ⟨b, t, _⟩ <;> simp [Request.parts]
  rw [segments, url_eq, ← String.length_toList, List.drop_left, List.takeWhile_append_of_pos path,
    takeWhile_query, List.append_nil, List.splitOn_intercalate '/' (apart (by decide)) some, List.map_map]
  simp [Function.comp_def]

/-- Addresses tell apart what is asked of the service, and say it in full. -/
structure AddressesTell : Prop where
  injective : ∀ r s : Request, c.url r = c.url s ↔ r.destination = s.destination
  read : ∀ r : Request, List.Forall₂ AddressPart.ReadFrom r.parts (c.segments (c.url r))
  trimmed : ∀ (raw : String) (collection : CollectionId),
    CollectionId.ofText? raw = some collection → collection.text = Text.trim raw

theorem addresses_tell : c.AddressesTell where
  injective r s := by
    constructor
    · intro same
      apply Request.destination_eq
      rw [← c.segments_url, ← c.segments_url, same]
    · intro same
      cases r <;> cases s <;> cases same <;> rfl
  read r := by
    rw [segments_url, List.forall₂_map_right_iff, List.forall₂_same]
    exact fun p _ => p.readFrom_written
  trimmed raw collection given := by
    unfold CollectionId.ofText? at given
    split at given
    · cases given
    · rw [← Option.some.inj given]

end Client

end GraphViewer

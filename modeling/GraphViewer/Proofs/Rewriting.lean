import Mathlib.Logic.Relation
import GraphViewer.Config
import GraphViewer.Graph.Payload
import GraphViewer.Merge.Suggestion
import GraphViewer.Proofs.Members
import GraphViewer.Proofs.Writing
/-
Documents that are written differently and mean the same. The members of an object can be put in any order,
those with an unknown name are passed over, and some fields have a second name. This holds at any depth of a
document, for every text that spells it.
-/

namespace GraphViewer

open Json

/-- What an object of a document is read as. -/
inductive Kind where
  | graph
  | node
  | edge
  | suggestions
  | suggestion
  | target
  | config

namespace Kind

def Draft : Kind → Type
  | graph => Payload.Draft
  | node => SentNode.Draft
  | edge => Edge.Draft
  | suggestions => Suggestions.Draft
  | suggestion => Suggestion.Draft
  | target => MergeTarget.Draft
  | config => Config.Draft

def Value : Kind → Type
  | graph => Payload
  | node => SentNode
  | edge => Edge
  | suggestions => Suggestions
  | suggestion => Suggestion
  | target => MergeTarget
  | config => Config

def record : (k : Kind) → Record k.Draft k.Value
  | graph => Payload.record
  | node => SentNode.record
  | edge => Edge.record
  | suggestions => Suggestions.record
  | suggestion => Suggestion.record
  | target => MergeTarget.record
  | config => Config.record

/-- The fields that hold a list of objects, and what these are read as. -/
inductive Lists : Kind → String → Kind → Prop
  | nodes : Lists graph "nodes" node
  | edges : Lists graph "edges" edge
  | suggestions : Lists suggestions "suggestions" suggestion

end Kind

/-! ## Fields with a place of their own -/

theorem SentNode.lawful : SentNode.record.Lawful where
  sets := by simp [record]
  apart := by simp [record]

theorem Edge.lawful : Edge.record.Lawful where
  sets := by simp [record]
  apart := by simp [record]

theorem Payload.lawful : Payload.record.Lawful where
  sets := by simp [record, -Bool.exists_bool, -Bool.forall_bool]
  apart := by simp [record, -Bool.exists_bool, -Bool.forall_bool]

theorem MergeTarget.lawful : MergeTarget.record.Lawful where
  sets := by simp [record]
  apart := by simp [record]

theorem Suggestion.lawful : Suggestion.record.Lawful where
  sets := by simp [record]
  apart := by simp [record]

theorem Suggestions.lawful : Suggestions.record.Lawful where
  sets := by simp [record]
  apart := by simp [record]

theorem Config.lawful : Config.record.Lawful where
  sets := by simp [record]
  apart := by simp [record]

theorem Kind.lawful (k : Kind) : k.record.Lawful :=
  match k with
  | graph => Payload.lawful
  | node => SentNode.lawful
  | edge => Edge.lawful
  | suggestions => Suggestions.lawful
  | suggestion => Suggestion.lawful
  | target => MergeTarget.lawful
  | config => Config.lawful

/-! ## Rewriting -/

/-- A name of a field and its second name. -/
def renamings : List (String × String) :=
  [("id", "suggestion_id"), ("entity_ids", "entities")]

/-- An object is rewritten, or one inside it. -/
inductive Edit : Kind → Tree → Tree → Prop
  /-- The members change places. -/
  | permute {k : Kind} {members members' : List (Quoted × Tree)} (perm : members.Perm members') :
      Edit k (.object members .closed) (.object members' .closed)
  /-- A member comes in that has an unknown name and any value. -/
  | insert {k : Kind} {before after : List (Quoted × Tree)} {key : Quoted} {t : Tree} {name : String}
      (named : key.text = .ok name) (unknown : k.record.Unknown name) (wellFormed : t.WellFormed) :
      Edit k (.object (before ++ after) .closed) (.object (before ++ (key, t) :: after) .closed)
  /-- A field gets its second name. -/
  | rename {before after : List (Quoted × Tree)} {key key' : Quoted} {t : Tree} {name name' : String}
      (named : key.text = .ok name) (named' : key'.text = .ok name') (second : (name, name') ∈ renamings) :
      Edit .suggestion (.object (before ++ (key, t) :: after) .closed)
        (.object (before ++ (key', t) :: after) .closed)
  /-- An object in a list is rewritten, -/
  | item {k inner : Kind} {before after : List (Quoted × Tree)} {key : Quoted} {name : String}
      {front back : List Tree} {t t' : Tree} (named : key.text = .ok name) (lists : k.Lists name inner) :
      Edit inner t t' →
      Edit k (.object (before ++ (key, .array (front ++ t :: back) .closed) :: after) .closed)
        (.object (before ++ (key, .array (front ++ t' :: back) .closed) :: after) .closed)
  /-- or the target of a suggestion, -/
  | target {before after : List (Quoted × Tree)} {key : Quoted} {t t' : Tree}
      (named : key.text = .ok "suggested_target_entity") : Edit .target t t' →
      Edit .suggestion (.object (before ++ (key, t) :: after) .closed)
        (.object (before ++ (key, t') :: after) .closed)
  /-- which is the fifth item of a suggestion that is given as an array of its fields. -/
  | fifth {front back : List Tree} {t t' : Tree} (place : front.length = 4) : Edit .target t t' →
      Edit .suggestion (.array (front ++ t :: back) .closed) (.array (front ++ t' :: back) .closed)

theorem Edit.ne_null {k : Kind} {t t' : Tree} (edit : Edit k t t') : t ≠ .null ∧ t' ≠ .null := by
  cases edit <;> exact ⟨Tree.noConfusion, Tree.noConfusion⟩

theorem Edit.agree {k : Kind} {t t' : Tree} (edit : Edit k t t') (room : Nat) :
    Agree (k.record.decode room t) (k.record.decode room t') := by
  induction edit generalizing room with
  | @permute k _ _ perm => exact k.lawful.decode_perm room perm
  | insert named unknown wellFormed => exact Record.decode_skipped named unknown wellFormed.skip room
  | @rename _ _ _ _ _ _ _ named named' second =>
    apply Record.decode_member Agree.lasts
    simp only [renamings, List.mem_cons, Prod.mk.injEq, List.not_mem_nil, or_false] at second
    rcases second with ⟨rfl, rfl⟩ | ⟨rfl, rfl⟩ <;>
      exact Record.readMember_alike Agree.lasts named rfl named' rfl fun _ => .refl _
  | item named lists _ ih =>
    apply Record.decode_member Agree.lasts
    -- each of these fields is read as a list of records, or null
    cases lists <;>
      exact Record.readMember_alike Agree.lasts named rfl named rfl fun room =>
        (Decode.listOrNull_alike Agree.lasts ih room).bind fun _ => .refl _
  | target named edit ih =>
    apply Record.decode_member Agree.lasts
    exact Record.readMember_alike Agree.lasts named rfl named rfl fun room =>
      (Decode.optional_alike Agree.lasts edit.ne_null.1 edit.ne_null.2 ih room).bind fun _ => .refl _
  | @fifth _ _ _ _ place edit ih =>
    have listed : Suggestion.record.fields = [_, _, _, _] ++ _ :: [] := rfl
    exact Record.decode_item Agree.lasts listed place.symm
      (fun room => (Decode.optional_alike Agree.lasts edit.ne_null.1 edit.ne_null.2 ih room).bind fun _ => .refl _) room

/-- A document is rewritten in some places, one after the other. -/
def Rewritten (k : Kind) : Tree → Tree → Prop :=
  Relation.ReflTransGen (Edit k)

theorem Rewritten.agree {k : Kind} {t t' : Tree} (rewritten : Rewritten k t t') (room : Nat) :
    Agree (k.record.decode room t) (k.record.decode room t') := by
  induction rewritten with
  | refl => exact .refl _
  | tail _ edit ih => exact ih.trans (edit.agree room)

/-- Texts are read alike if the trees are that they spell. -/
theorem decode_alike {R : (α : Type) → Except Fault α → Except Fault α → Prop} (lasts : Lasts R) {α : Type}
    {d : Decoder α} {text text' : String} {t t' : Tree} (spells : Spells text t) (spells' : Spells text' t')
    (alike : ∀ room, R α (d room t) (d room t')) : R α (decode d text) (decode d text') := by
  simp only [decode, document_of_spells spells, document_of_spells spells']
  exact lasts.bind _ (alike _)

theorem decode_rewritten {k : Kind} {text text' : String} {t t' : Tree} (spells : Spells text t)
    (spells' : Spells text' t') (rewritten : Rewritten k t t') :
    Agree (decode k.record.decode text) (decode k.record.decode text') :=
  decode_alike Agree.lasts spells spells' rewritten.agree

/-- A text is read like another one that spells it rewritten. -/
structure ReadAlike (text text' : String) (t t' : Tree) : Prop where
  graph : Rewritten .graph t t' → Agree (Payload.read text) (Payload.read text')
  suggestions : Rewritten .suggestions t t' → Agree (Suggestions.read text) (Suggestions.read text')
  config : Rewritten .config t t' → Agree (Config.read text) (Config.read text')

theorem rewritten_read_alike {text text' : String} {t t' : Tree} (spells : Spells text t)
    (spells' : Spells text' t') : ReadAlike text text' t t' where
  graph rewritten := decode_rewritten spells spells' rewritten
  suggestions rewritten := decode_rewritten spells spells' rewritten
  config rewritten := (decode_rewritten spells spells' rewritten).mapError _

/-! ## A suggestion written in two ways -/

/-- The number 7. -/
def seven : Numeral :=
  ⟨false, [7], none, none, .complete⟩

/-- A suggestion with an id, under this name. -/
def suggestionTree (name : String) : Tree :=
  .object [(.plain name, .number seven)] .closed

/-- An answer of the service that holds one suggestion, after some other members. -/
def answerTree (before : List (Quoted × Tree)) (name : String) : Tree :=
  .object (before ++ [(.plain "suggestions", .array [suggestionTree name] .closed)]) .closed

def suggested : String :=
  "\x7b\"suggestions\": [\x7b\"id\":7\x7d]\x7d"

/-- The same with the other name of the id, after a member that is new. -/
def suggestedAnew : String :=
  "\x7b\"new\":[],\"suggestions\":[\x7b\"suggestion_id\":7\x7d]\x7d"

theorem spelt_seven : Token.Spelt (.number seven) ['7'] :=
  .number (.plain (.mk (.digits (.one rfl) (by decide)) .absent .absent))

theorem written_suggestion (name : String) :
    (suggestionTree name).Written [.openObject, .string (.plain name), .colon, .number seven, .closeObject] :=
  .object (.last rfl (.number rfl))

theorem spells_suggested : Spells suggested (answerTree [] "id") := by
  refine ⟨_, .object (.last rfl (.array (.last (written_suggestion "id")))), ?_⟩
  have space : ∀ c ∈ [' '], isSpace c = true := by simp [isSpace]
  have ends : Writes [] [] := .done (by simp)
  have writes := Writes.tight (.mark (c := '\x7b') rfl) <|
    .tight (.plain (s := "suggestions") (by simp [plainChar])) <| .tight (.mark (c := ':') rfl) <|
    .next space (.mark (c := '[') rfl) <| .tight (.mark (c := '\x7b') rfl) <|
    .tight (.plain (s := "id") (by simp [plainChar])) <| .tight (.mark (c := ':') rfl) <| .tight spelt_seven <|
    .tight (.mark (c := '\x7d') rfl) <| .tight (.mark (c := ']') rfl) <| .tight (.mark (c := '\x7d') rfl) ends
  simpa [suggested] using writes

theorem spells_suggestedAnew :
    Spells suggestedAnew (answerTree [(.plain "new", .array [] .closed)] "suggestion_id") := by
  refine ⟨_, .object (.more rfl .emptyArray (.last rfl (.array (.last (written_suggestion _))))), ?_⟩
  have ends : Writes [] [] := .done (by simp)
  have writes := Writes.tight (.mark (c := '\x7b') rfl) <|
    .tight (.plain (s := "new") (by simp [plainChar])) <| .tight (.mark (c := ':') rfl) <|
    .tight (.mark (c := '[') rfl) <| .tight (.mark (c := ']') rfl) <| .tight (.mark (c := ',') rfl) <|
    .tight (.plain (s := "suggestions") (by simp [plainChar])) <| .tight (.mark (c := ':') rfl) <|
    .tight (.mark (c := '[') rfl) <| .tight (.mark (c := '\x7b') rfl) <|
    .tight (.plain (s := "suggestion_id") (by simp [plainChar])) <| .tight (.mark (c := ':') rfl) <|
    .tight spelt_seven <| .tight (.mark (c := '\x7d') rfl) <| .tight (.mark (c := ']') rfl) <| .tight (.mark (c := '\x7d') rfl) ends
  simpa [suggestedAnew] using writes

theorem rewritten_suggested : Rewritten .suggestions (answerTree [] "id")
    (answerTree [(.plain "new", .array [] .closed)] "suggestion_id") := by
  have unknown : Suggestions.record.Unknown "new" := by
    simp [Record.Unknown, Suggestions.record, Field.answersTo]
  have inserted : Edit .suggestions (answerTree [] "id") (answerTree [(.plain "new", .array [] .closed)] "id") :=
    @Edit.insert .suggestions [] _ _ _ _ (Quoted.text_plain "new") unknown ⟨_, .emptyArray⟩
  have renamed : Edit .suggestion (suggestionTree "id") (suggestionTree "suggestion_id") :=
    @Edit.rename [] [] _ _ _ _ _ (Quoted.text_plain "id") (Quoted.text_plain "suggestion_id") List.mem_cons_self
  have inside : Edit .suggestions (answerTree [(.plain "new", .array [] .closed)] "id")
      (answerTree [(.plain "new", .array [] .closed)] "suggestion_id") :=
    @Edit.item _ _ [_] [] _ _ [] [] _ _ (Quoted.text_plain _) .suggestions renamed
  exact .tail (.single inserted) inside

/-- An id that is a number is read under both of its names. -/
theorem rewritten_read_alike_suggested : Spells suggested (answerTree [] "id") ∧
    Spells suggestedAnew (answerTree [(.plain "new", .array [] .closed)] "suggestion_id") ∧
    Agree (Suggestions.read suggested) (Suggestions.read suggestedAnew) ∧
    Suggestions.read suggested = .ok ⟨[⟨"7", [], 0.0, "", none⟩], 0⟩ := by
  refine ⟨spells_suggested, spells_suggestedAnew, ?_, ?_⟩
  · exact (rewritten_read_alike spells_suggested spells_suggestedAnew).suggestions rewritten_suggested
  · rw [Suggestions.read, decode, document_of_spells spells_suggested]
    rfl

end GraphViewer

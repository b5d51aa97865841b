import GraphViewer.Graph.Snapshot
import GraphViewer.Json.Decode
/-
Suggestions of the service to merge nodes that look like the same thing. The viewer only shows them and
passes the user's answer on.
-/

namespace GraphViewer

/-- The entity that the others would become. -/
structure MergeTarget where
  name : String
  kind : Option String
  deriving DecidableEq, Repr

structure Suggestion where
  id : String
  entities : List NodeId
  confidence : Float
  reason : String
  target : Option MergeTarget
  deriving DecidableEq, Repr

/-- The suggestions sent, and how many the service has in all. -/
structure Suggestions where
  items : List Suggestion
  pending : Nat
  deriving DecidableEq, Repr

/-- What the user answers to a suggestion. -/
inductive MergeAction where
  | accept
  | reject
  deriving DecidableEq, Repr

/-- The word for an answer in a request. -/
def MergeAction.word : MergeAction → String
  | .accept => "accept"
  | .reject => "reject"

/-- The word for an answer in a log line. -/
def MergeAction.title : MergeAction → String
  | .accept => "Accept"
  | .reject => "Reject"

/-- A badge counts up to this many. -/
def badgeLimit : Nat := 10

/-- The text of the badge, if there is anything to show. -/
def Suggestions.badge? (s : Suggestions) : Option String :=
  if s.items.isEmpty then none
  else if badgeLimit < s.items.length then some (toString badgeLimit ++ "+")
  else some (toString s.items.length)

/-! ## Decoding -/

namespace MergeTarget

structure Draft where
  name : Option String := none
  kind : Option (Option String) := none

open Json Decode in
def record : Record Draft MergeTarget where
  name := "SuggestedEntity"
  fields := [
    { name := "entity_name", required := true, isSet := (·.name.isSome)
      read := fun room t => do
        let v ← string room t
        return ({ · with name := some v }) },
    { name := "entity_type", isSet := (·.kind.isSome)
      read := fun room t => do
        let v ← optional string room t
        return ({ · with kind := some v }) }]
  blank := {}
  build d := do
    let name ← required "entity_name" d.name
    return ⟨name, d.kind.getD none⟩

end MergeTarget

namespace Suggestion

structure Draft where
  id : Option String := none
  entities : Option (List NodeId) := none
  confidence : Option Float := none
  reason : Option String := none
  target : Option (Option MergeTarget) := none

open Json Decode in
def record : Record Draft Suggestion where
  name := "MergeSuggestion"
  fields := [
    { name := "id", aliases := ["suggestion_id"], required := true, isSet := (·.id.isSome)
      read := fun room t => do
        let v ← name room t
        return ({ · with id := some v }) },
    { name := "entity_ids", aliases := ["entities"], isSet := (·.entities.isSome)
      read := fun room t => do
        let v ← list string room t
        return ({ · with entities := some v }) },
    { name := "confidence_score", isSet := (·.confidence.isSome)
      read := fun room t => do
        let v ← double room t
        return ({ · with confidence := some v }) },
    { name := "merge_reason", isSet := (·.reason.isSome)
      read := fun room t => do
        let v ← string room t
        return ({ · with reason := some v }) },
    { name := "suggested_target_entity", isSet := (·.target.isSome)
      read := fun room t => do
        let v ← optional MergeTarget.record.decode room t
        return ({ · with target := some v }) }]
  blank := {}
  build d := do
    let id ← required "id" d.id
    return ⟨id, d.entities.getD [], d.confidence.getD 0.0, d.reason.getD "", d.target.getD none⟩

end Suggestion

namespace Suggestions

structure Draft where
  items : Option (List Suggestion) := none
  pending : Option Nat := none

open Json Decode in
def record : Record Draft Suggestions where
  name := "MergeSuggestionsResponse"
  fields := [
    { name := "suggestions", isSet := (·.items.isSome)
      read := fun room t => do
        let v ← listOrNull Suggestion.record.decode room t
        return ({ · with items := some v }) },
    { name := "pending_count", isSet := (·.pending.isSome)
      read := fun room t => do
        let v ← word room t
        return ({ · with pending := some v }) }]
  blank := {}
  build d := .ok ⟨d.items.getD [], d.pending.getD 0⟩

/-- The suggestions in a text. -/
def read (text : String) : Except Json.Fault Suggestions :=
  Json.decode record.decode text

end Suggestions

end GraphViewer

import GraphViewer.Html
import GraphViewer.Merge.Suggestion
import GraphViewer.Decimal.Rounded
/-
The panels beside the graph: one shows a node with its properties and relations, the other lists the
suggestions to merge nodes. A panel only tells what the user does in it.
-/

namespace GraphViewer

/-- What the user does in a panel. -/
inductive PanelMessage where
  | select (id : NodeId)
  | close
  | answer (suggestion : String) (action : MergeAction)
  deriving DecidableEq, Repr

namespace Panel

/-- A property as it is shown: a text stands for itself. -/
def propertyText (v : Json.Value) : String :=
  v.string?.getD v.text

/-- The head of a panel. -/
def header (title : String) : Html PanelMessage :=
  .plain "header" [
    .plain "h2" [.text title],
    .onClick "button" [("class", "icon"), ("title", "Close")] .close [.text "×"]]

/-! ## A node -/

def relation (label : String) (other : NodeId) : Html PanelMessage :=
  .plain "li" [.classed "span" "relation" [.text label], .text " ", .link (.select other) [.text other]]

def property (name : String) (value : Json.Value) : Html PanelMessage :=
  .plain "tr" [.plain "th" [.text name], .plain "td" [.text (propertyText value)]]

def nodeDetail (n : Node) (relations : List (String × NodeId)) : Html PanelMessage :=
  .classed "aside" "graph-panel node-detail" [
    header n.id,
    .classed "p" "labels" [.text (", ".intercalate n.labels)],
    .classed "table" "properties" [
      .plain "tbody" (n.properties.map fun (name, value) => property name value)],
    .classed "ul" "relations" (relations.map fun (label, other) => relation label other)]

/-! ## Suggestions -/

/-- What the nodes would become. -/
def targetText (t : MergeTarget) : String :=
  match t.kind with
  | some kind => t.name ++ " (" ++ kind ++ ")"
  | none => t.name

/-- How sure the service is, in whole percents. -/
def confidenceText (score : Float) : String :=
  "Confidence " ++ Decimal.wholeText (score * 100.0) ++ "%"

/-- The attribute of a button that cannot be used. -/
def disabledIf (busy : Bool) : List (String × String) :=
  if busy then [("disabled", "")] else []

def suggestionRow (busy : Bool) (s : Suggestion) : Html PanelMessage :=
  .classed "li" "merge-suggestion" ([
    .classed "ul" "entities" (s.entities.map fun id => .plain "li" [.link (.select id) [.text id]])] ++
    (s.target.toList.map fun t => .classed "p" "target" [.text "Merge into ", .text (targetText t)]) ++ [
    .classed "p" "confidence" [.text (confidenceText s.confidence)],
    .classed "p" "reason" [.text s.reason],
    .classed "div" "actions" [
      .onClick "button" (disabledIf busy) (.answer s.id .accept) [.text "Merge"],
      .onClick "button" (("class", "secondary") :: disabledIf busy) (.answer s.id .reject)
        [.text "Dismiss"]]])

/-- The suggestions, with what went wrong with the last answer. -/
def mergePanel (s : Suggestions) (busy : Bool) (error : Option String) : Html PanelMessage :=
  .classed "aside" "graph-panel merge-panel" (
    header ("Merge suggestions (" ++ toString s.pending ++ " pending)") ::
    (error.toList.map fun e => .classed "p" "error" [.text e]) ++
    [.classed "ul" "suggestions" (s.items.map (suggestionRow busy))])

end Panel

end GraphViewer

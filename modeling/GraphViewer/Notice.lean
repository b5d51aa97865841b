import GraphViewer.Service.Request
import GraphViewer.Service.Failure
/-
What the viewer logs, and in which words.
-/

namespace GraphViewer

inductive Level where
  | debug
  | info
  | warn
  | error
  deriving DecidableEq, Repr

def Level.name : Level → String
  | .debug => "DEBUG"
  | .info => "INFO"
  | .warn => "WARN"
  | .error => "ERROR"

inductive Notice where
  | configUnreadable (fault : ConfigFault)
  | danglingEdges (count : Nat)
  | graphLoaded (collection : CollectionId) (nodes edges : Nat)
  | graphFailed (collection : CollectionId) (failure : Failure)
  | graphStale (collection : CollectionId)
  | suggestionsLoaded (count pending : Nat)
  | suggestionsFailed (failure : Failure)
  | suggestionsStale (collection : CollectionId)
  | requestAbandoned (ms : Nat)
  | actionApplied (suggestion : String) (action : MergeAction)
  | actionFailed (suggestion : String) (failure : Failure)
  | collectionSwitched
  | selected (node : Option NodeId)
  | unknownNode (node : NodeId)
  | canvasUnavailable

namespace Notice

def level : Notice → Level
  | .selected _ | .requestAbandoned _ => .debug
  | .graphLoaded _ _ _ | .suggestionsLoaded _ _ | .actionApplied _ _ | .collectionSwitched => .info
  | .configUnreadable _ | .danglingEdges _ | .graphStale _ | .suggestionsStale _ | .unknownNode _ => .warn
  | .graphFailed _ _ | .suggestionsFailed _ | .actionFailed _ _ | .canvasUnavailable => .error

def text : Notice → String
  | .configUnreadable fault => fault.message ++ "; using defaults"
  | .danglingEdges count =>
    toString count ++ " edge(s) reference nodes missing from the graph; they will not be drawn"
  | .graphLoaded collection nodes edges =>
    "loaded graph for " ++ collection.text ++ ": " ++ toString nodes ++ " nodes, " ++ toString edges ++
      " edges"
  | .graphFailed collection failure =>
    "failed to load graph for " ++ collection.text ++ ": " ++ failure.message
  | .graphStale collection => "discarding stale graph response for " ++ collection.text
  | .suggestionsLoaded count pending =>
    toString count ++ " merge suggestion(s), " ++ toString pending ++ " pending"
  | .suggestionsFailed failure => "failed to load merge suggestions: " ++ failure.message
  | .suggestionsStale collection => "discarding stale merge suggestions for " ++ collection.text
  | .requestAbandoned ms => "request abandoned after " ++ toString ms ++ "ms"
  | .actionApplied suggestion action =>
    "merge suggestion " ++ suggestion ++ ": " ++ action.title ++ " applied"
  | .actionFailed suggestion failure => "merge suggestion " ++ suggestion ++ ": " ++ failure.message
  | .collectionSwitched => "switched collection, resetting view state"
  | .selected (some node) => "active node -> " ++ node
  | .selected none => "active node cleared"
  | .unknownNode node => "merge suggestion references unknown node " ++ node
  | .canvasUnavailable => "canvas 2d context unavailable"

/-- The line of the log. -/
def line (n : Notice) : String :=
  n.level.name ++ " " ++ n.text

end Notice

end GraphViewer

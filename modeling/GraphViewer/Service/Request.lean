import GraphViewer.Service.CollectionId
import GraphViewer.Text.Percent
import GraphViewer.Merge.Suggestion
import GraphViewer.Config
/-
The requests to the graph service and how they are written: method, address and body.
-/

namespace GraphViewer

/-- How a collection is reached: as its owner, who may also merge nodes, or as a reader of one that is
shared on the marketplace. -/
inductive Access where
  | owned
  | marketplace
  deriving DecidableEq, Repr

def Access.isOwner (a : Access) : Bool :=
  a == .owned

inductive Request where
  | graph (collection : CollectionId) (access : Access)
  | suggestions (collection : CollectionId)
  | action (collection : CollectionId) (suggestion : String) (answer : MergeAction)
  deriving DecidableEq

/-- What the viewer knows of the service: where it is, how long to wait for it, and how many nodes to ask
for. -/
structure Client where
  base : String
  timeoutMs : Nat
  maxNodes : Option Nat
  deriving DecidableEq, Repr

namespace Client

/-- A text without the slashes at its end. -/
def dropSlashes (s : String) : String :=
  String.ofList ((s.toList.reverse.dropWhile (· == '/')).reverse)

def ofConfig (c : Config) : Client :=
  ⟨dropSlashes c.apiBase, c.requestTimeoutMs, c.maxNodes⟩

/-- The address of a collection's graph. -/
def graphUrl (c : Client) (collection : CollectionId) (access : Access) : String :=
  let id := Text.percentEncode collection.text
  let path := match access with
    | .owned => "/collections/" ++ id ++ "/graphs"
    | .marketplace => "/marketplace/collections/" ++ id ++ "/graph"
  let limit := match c.maxNodes with
    | some n => "?max_nodes=" ++ toString n
    | none => ""
  c.base ++ path ++ limit

/-- The address of a collection's merge suggestions. -/
def suggestionsUrl (c : Client) (collection : CollectionId) : String :=
  c.base ++ "/collections/" ++ Text.percentEncode collection.text ++ "/graphs/merge-suggestions"

/-- The address that takes the answer to a suggestion. -/
def actionUrl (c : Client) (collection : CollectionId) (suggestion : String) : String :=
  c.suggestionsUrl collection ++ "/" ++ Text.percentEncode suggestion ++ "/action"

def url (c : Client) : Request → String
  | .graph collection access => c.graphUrl collection access
  | .suggestions collection => c.suggestionsUrl collection
  | .action collection suggestion _ => c.actionUrl collection suggestion

end Client

/-- A request as it goes out. -/
structure Sent where
  method : String
  url : String
  body : Option String
  deriving DecidableEq, Repr

def Request.method : Request → String
  | .graph _ _ => "GET"
  | .suggestions _ | .action _ _ _ => "POST"

def Request.body? : Request → Option String
  | .action _ _ answer => some (Json.Value.object [("action", .string answer.word)]).text
  | _ => none

def Client.sent (c : Client) (r : Request) : Sent :=
  ⟨r.method, c.url r, r.body?⟩

end GraphViewer

import GraphViewer.View.Canvas
import GraphViewer.Graph.Outcome
import GraphViewer.Service.Tickets
import GraphViewer.Service.Exchange
/-
The view of one collection: the state of its page, and the calls that it makes. The route may lead to
another collection while the view stays; what belongs to the collection before is dropped then.
-/

namespace GraphViewer

/-- A call under way. Calls that read have a ticket, so that a reply that has been overtaken by a later
call is recognised. -/
inductive Call where
  | graph (collection : CollectionId) (ticket : Ticket)
  | suggestions (collection : CollectionId) (ticket : Ticket)
  | action (collection : CollectionId) (suggestion : String) (answer : MergeAction)
  deriving DecidableEq

def Call.request (access : Access) : Call → Request
  | .graph collection _ => .graph collection access
  | .suggestions collection _ => .suggestions collection
  | .action collection suggestion answer => .action collection suggestion answer

/-- The panel of merge suggestions. -/
structure MergeState where
  suggestions : Option Suggestions := none
  isOpen : Bool := false
  busy : Bool := false
  error : Option String := none

structure View (W N : Type) where
  access : Access
  client : Client
  theme : Theme
  /-- The id in the route, as it is written there. -/
  route : Option String
  scope : Scope
  outcome : Outcome
  loading : Bool
  groups : Groups
  interaction : Interaction
  /-- The last aim of the camera. -/
  aim : Option Aim
  merge : MergeState
  fullscreen : Bool
  search : String
  searchOpen : Bool
  graphTickets : Tickets
  suggestionTickets : Tickets
  canvas : Canvas W N

/-- A view after something happened to it, with what it logs and the calls that it starts. -/
structure Turn (W N : Type) where
  view : View W N
  notices : List Notice
  calls : List Call

namespace View

variable {W N : Type} [Scalar W] [Scalar N] [Narrowing W N]

/-- A view before it shows anything. -/
def blank (config : Config) (access : Access) (route : Option String) (site : Site W) : View W N where
  access := access
  client := Client.ofConfig config
  theme := config.theme
  route := route
  scope := {}
  outcome := .pending
  loading := false
  groups := .empty
  interaction := .initial
  aim := none
  merge := {}
  fullscreen := false
  search := ""
  searchOpen := false
  graphTickets := {}
  suggestionTickets := {}
  canvas := Canvas.create site

/-- The collection in the route. -/
def collection? (v : View W N) : Option CollectionId :=
  CollectionId.ofRoute? v.route

/-- The snapshot that is shown. -/
def snapshot? (v : View W N) : Option Snapshot :=
  v.outcome.snapshot?

/-- Nothing else comes of it. -/
def quiet (v : View W N) : Turn W N :=
  ⟨v, [], []⟩

/-! ## Reading -/

/-- Asks for the graph. -/
def readGraph (v : View W N) (collection : CollectionId) : View W N × Call :=
  let (tickets, ticket) := v.graphTickets.next
  ({ v with graphTickets := tickets, loading := true }, .graph collection ticket)

/-- Asks for the merge suggestions. -/
def readSuggestions (v : View W N) (collection : CollectionId) : View W N × Call :=
  let (tickets, ticket) := v.suggestionTickets.next
  ({ v with suggestionTickets := tickets }, .suggestions collection ticket)

/-- Asks for the graph, and an owner also for the suggestions. The calls do not wait for each other. -/
def refresh (v : View W N) : View W N × List Call :=
  match v.collection? with
  | none => (v, [])
  | some collection =>
    let (v, graph) := v.readGraph collection
    if v.access.isOwner then
      let (v, suggestions) := v.readSuggestions collection
      (v, [graph, suggestions])
    else (v, [graph])

/-! ## Another collection -/

/-- The view without what belongs to one collection. -/
def reset (v : View W N) : View W N :=
  { v with
    interaction := .initial
    groups := .empty
    aim := none
    merge := { v.merge with suggestions := none, isOpen := false, error := none }
    search := ""
    outcome := .pending }

/-- Shows the collection in the route, and reads it in any case. -/
def enter (v : View W N) : Turn W N :=
  let (scope, switched) := v.scope.enter v.collection?
  let shown := { v with scope := scope }
  let (read, calls) := (if switched then shown.reset else shown).refresh
  ⟨read, if switched then [.collectionSwitched] else [], calls⟩

/-- The view as it comes up. -/
def mount (config : Config) (access : Access) (route : Option String) (site : Site W) : Turn W N :=
  let t := (blank config access route site).enter
  { t with notices := t.notices ++ if site.drawable then [] else [.canvasUnavailable] }

/-- The route changes. The same route once more is no change. -/
def navigate (v : View W N) (route : Option String) : Turn W N :=
  if route = v.route then v.quiet else { v with route := route }.enter

/-! ## Replies -/

/-- Points the camera at something. -/
def aimAt (v : View W N) (aim : Aim) : View W N :=
  { v with aim := some aim, canvas := v.canvas.obey aim }

/-- Takes in a graph that was read. The camera is told before the layout changes. -/
def adopt (v : View W N) (l : Loaded) : View W N :=
  let (interaction, aim) := v.interaction.adopt l.snapshot l.groups
  let followed := { v with interaction := interaction }
  let aimed := aim.elim followed followed.aimAt
  { aimed with
    groups := l.groups
    outcome := .loaded l.snapshot
    canvas := aimed.canvas.load l.snapshot
    loading := false }

def graphReplied (v : View W N) (collection : CollectionId) (ticket : Ticket) (reply : Option Reply) :
    Turn W N :=
  let (result, notices) := v.client.graph collection v.access reply
  if !v.graphTickets.isCurrent ticket then ⟨v, notices ++ [.graphStale collection], []⟩
  else match result with
    | .ok loaded => ⟨v.adopt loaded, notices, []⟩
    | .error failure =>
      ⟨{ v with outcome := .failed failure, loading := false },
        notices ++ [.graphFailed collection failure], []⟩

def suggestionsReplied (v : View W N) (collection : CollectionId) (ticket : Ticket)
    (reply : Option Reply) : Turn W N :=
  let (result, notices) := v.client.suggestions collection reply
  if !v.suggestionTickets.isCurrent ticket then ⟨v, notices ++ [.suggestionsStale collection], []⟩
  else match result with
    | .ok s =>
      ⟨{ v with merge := { v.merge with suggestions := some s } },
        notices ++ [.suggestionsLoaded s.items.length s.pending], []⟩
    | .error failure => ⟨v, notices ++ [.suggestionsFailed failure], []⟩

/-- After an answer was passed on everything is read anew. -/
def actionReplied (v : View W N) (collection : CollectionId) (suggestion : String)
    (answer : MergeAction) (reply : Option Reply) : Turn W N :=
  let (result, notices) := v.client.action collection suggestion answer reply
  match result with
  | .ok () =>
    let (read, calls) := v.refresh
    ⟨{ read with merge := { read.merge with busy := false } },
      notices ++ [.actionApplied suggestion answer], calls⟩
  | .error failure =>
    ⟨{ v with merge := { v.merge with busy := false, error := some failure.message } },
      notices ++ [.actionFailed suggestion failure], []⟩

/-- A call ends with a reply, or without one. -/
def replied (v : View W N) (call : Call) (reply : Option Reply) : Turn W N :=
  match call with
  | .graph collection ticket => v.graphReplied collection ticket reply
  | .suggestions collection ticket => v.suggestionsReplied collection ticket reply
  | .action collection suggestion answer => v.actionReplied collection suggestion answer reply

end View

end GraphViewer

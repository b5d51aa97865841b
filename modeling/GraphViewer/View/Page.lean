import GraphViewer.View.Events
import GraphViewer.View.Panel
/-
The pages of the viewer and what they show of a view. The elements of a page are the only way to use its
controls: a control that is not shown cannot be used.
-/

namespace GraphViewer

/-- The pages: the graph by itself, in a section of its own for an owner or for a reader of the marketplace,
and the page for addresses that lead nowhere. -/
inductive Page where
  | bare
  | owned
  | marketplace
  | notFound
  deriving DecidableEq, Repr

/-- How a page reaches its collection, if it shows one. -/
def Page.access? : Page → Option Access
  | .bare | .owned => some .owned
  | .marketplace => some .marketplace
  | .notFound => none

namespace View

variable {W N : Type}

/-! ## The toolbar -/

def searchItem (v : View W N) (id : NodeId) : Html Message :=
  let className := if v.interaction.activeNode? = some id then "search-item active" else "search-item"
  .onClick "li" [("class", className)] (.pick id) [.text id]

/-- The nodes that the search finds. -/
def searchResults (v : View W N) : List NodeId :=
  v.outcome.snapshot?.elim [] (·.search v.search)

def searchBox (v : View W N) : Html Message :=
  .classed "div" "popover node-search" [
    .element "input" [("type", "text"), ("placeholder", "Search node..."), ("value", v.search)]
      (.input .searchFor) [],
    .classed "ul" "search-results" (v.searchResults.map v.searchItem)]

/-- The text of the badge that opens the merge panel, and how many suggestions wait. -/
def badge? (v : View W N) : Option (String × Nat) :=
  if v.access.isOwner then do
    let s ← v.merge.suggestions
    let label ← s.badge?
    return (label, s.pending)
  else none

def mergeBadge (label : String) (pending : Nat) : Html Message :=
  .onClick "span"
    [("class", "badge merge-badge"), ("title", toString pending ++ " entities waiting to be merged")]
    .openMerges [.text label]

def actions (v : View W N) : Html Message :=
  let icon := if v.loading then "refresh-icon spinning" else "refresh-icon"
  .classed "div" "graph-actions" (
    (v.badge?.toList.map fun (label, pending) => mergeBadge label pending) ++ [
    .onClick "button" [("class", "icon outline"), ("title", "Refresh")] .refresh [.classed "span" icon []],
    .onClick "button" [("class", "icon outline"), ("title", "Toggle fullscreen")] .toggleFullscreen
      [.text (if v.fullscreen then "Exit fullscreen" else "Fullscreen")]])

def toolbar (v : View W N) : Html Message :=
  .classed "div" "graph-toolbar" [
    .classed "div" "node-search-anchor" (
      .onClick "button" [("class", "outline")] .toggleSearch [.text "Search nodes"] ::
      if v.searchOpen then [v.searchBox] else []),
    v.actions]

/-! ## The card -/

/-- What is shown over the graph while there is nothing else to see. -/
def statusOverlay : Outcome → List (Html Message)
  | .pending => [.classed "div" "graph-status loading" (List.replicate 3 (.classed "span" "dot" []))]
  | .failed failure =>
    [.classed "div" "graph-status error" [.text "Failed to load graph: ", .text failure.message]]
  | .loaded s => if s.isEmpty then [.classed "div" "graph-status" [.text "No nodes found"]] else []

/-- The note that the service left nodes out. -/
def truncationNote (v : View W N) : List (Html Message) :=
  if v.outcome.snapshot?.any Snapshot.truncated then
    [.classed "p" "graph-note" [.text "Showing a truncated graph"]]
  else []

/-- The switch of an entity type. -/
def typeBadge (v : View W N) (key : EntityKey) (ids : List NodeId) : Html Message :=
  let opacity := if v.interaction.isTypeActive key then "1" else "0.7"
  .onClick "span"
    [("class", "badge entity-badge"),
      ("style", "background-color: " ++ key.colour ++ "; opacity: " ++ opacity)]
    (.toggleType key) [.text (key.label ++ " (" ++ toString ids.length ++ ")")]

def canvasElement : Html Message :=
  .tagged "canvas" [("class", "force-graph-canvas"), ("style", "display: block; cursor: grab;")] []

/-! ## The panels -/

def ofDetail : PanelMessage → Message
  | .select id => .activate id
  | .close => .clearFocus
  | .answer suggestion action => .answer suggestion action

def ofMerge : PanelMessage → Message
  | .select id => .activate id
  | .close => .closeMerges
  | .answer suggestion action => .answer suggestion action

/-- The node that the detail panel shows, with its relations: the active one, unless the merge panel is
open. -/
def detail? (v : View W N) : Option (Node × List (String × NodeId)) :=
  if v.merge.isOpen then none
  else do
    let id ← v.interaction.activeNode?
    let s ← v.outcome.snapshot?
    let n ← s.node? id
    return (n, s.relations id)

/-- The suggestions that the merge panel shows. -/
def merging? (v : View W N) : Option Suggestions :=
  if v.merge.isOpen then v.merge.suggestions else none

def panels (v : View W N) : List (Html Message) :=
  (v.detail?.toList.map fun (n, relations) => (Panel.nodeDetail n relations).map ofDetail) ++
    v.merging?.toList.map fun s => (Panel.mergePanel s v.merge.busy v.merge.error).map ofMerge

def card (v : View W N) : Html Message :=
  .classed "div" "graph-card" (
    statusOverlay v.outcome ++ v.truncationNote ++
    [.classed "div" "entity-filter" (v.groups.entries.map fun (key, ids) => v.typeBadge key ids),
      canvasElement] ++ v.panels)

/-- All that is shown of a view. -/
def render (v : View W N) : Html Message :=
  .classed "div" (if v.fullscreen then "collection-graph fullscreen" else "collection-graph")
    [v.toolbar, v.card]

end View

variable {W N : Type}

/-- What a page shows, with its view if it has one. -/
def Page.show (p : Page) (v : Option (View W N)) : List (Html Message) :=
  match p, v with
  | .notFound, _ =>
    [.plain "h1" [.text "Page not found"],
      .plain "p" [.text "Open a collection's graph at /collections/<id>/graph."]]
  | _, none => []
  | .bare, some v => [v.render]
  | .owned, some v | .marketplace, some v =>
    [.classed "section" "page collection-graph-page" [.plain "h1" [.text "Knowledge Graph"], v.render]]

end GraphViewer

import GraphViewer.View.Page
/-
Which parts of its page a view shows. A part that comes and goes is known by its class: the badge that opens
the panel of merge suggestions, and that panel. No other element has one of these classes, whatever the texts
on the page are.
-/

namespace GraphViewer

variable {Msg Other : Type}

namespace Html

/-- Some element of the tree is of the class. -/
def Shows (h : Html Msg) (className : String) : Prop :=
  ∃ e ∈ h.elements, e.attribute? "class" = some className

/-- Some element of the trees is of the class. -/
def AnyShows (hs : List (Html Msg)) (className : String) : Prop :=
  ∃ e ∈ elementsAll hs, e.attribute? "class" = some className

section

variable {className : String} {hs : List (Html Msg)} {tag : String} {attributes : List (String × String)}

@[simp] theorem anyShows_nil : ¬ AnyShows ([] : List (Html Msg)) className := by
  simp [AnyShows, elementsAll]

@[simp] theorem anyShows_cons {h : Html Msg} :
    AnyShows (h :: hs) className ↔ h.Shows className ∨ AnyShows hs className := by
  simp [AnyShows, Shows, elementsAll, or_and_right, exists_or]

@[simp] theorem anyShows_append {more : List (Html Msg)} :
    AnyShows (hs ++ more) className ↔ AnyShows hs className ∨ AnyShows more className := by
  induction hs with
  | nil => simp
  | cons h rest ih => simp [ih, or_assoc]

@[simp] theorem anyShows_map {α : Type} {show? : α → Html Msg} {items : List α} :
    AnyShows (items.map show?) className ↔ ∃ item ∈ items, (show? item).Shows className := by
  induction items with
  | nil => simp
  | cons item rest ih => simp [ih]

@[simp] theorem shows_text {content : String} : ¬ (text content : Html Msg).Shows className := by
  simp [Shows, elements]

/-- An element shows its own class, and those of the elements in it. -/
theorem shows_element {listener : Listener Msg} :
    (element tag attributes listener hs).Shows className ↔
      (attributes.find? fun a => a.1 == "class").map Prod.snd = some className ∨ AnyShows hs className := by
  simp [Shows, AnyShows, elements, Element.attribute?]

@[simp] theorem shows_classed {own : String} :
    (classed tag own hs).Shows className ↔ own = className ∨ AnyShows hs className := by
  simp [classed, tagged, shows_element]

@[simp] theorem shows_plain : (plain tag hs).Shows className ↔ AnyShows hs className := by
  simp [plain, tagged, shows_element]

@[simp] theorem shows_onClick {message : Msg} :
    (onClick tag attributes message hs).Shows className ↔
      (attributes.find? fun a => a.1 == "class").map Prod.snd = some className ∨ AnyShows hs className :=
  shows_element

@[simp] theorem shows_link {message : Msg} :
    (link message hs).Shows className ↔ AnyShows hs className := by
  simp [link, shows_element]

end

mutual

/-- What a tree tells does not matter to what it shows. -/
@[simp] theorem shows_map (f : Msg → Other) (h : Html Msg) (className : String) :
    (h.map f).Shows className ↔ h.Shows className := by
  cases h with
  | text content => simp [map]
  | element tag attributes listener children =>
    rw [map, shows_element, shows_element, anyShows_mapAll f children className]

theorem anyShows_mapAll (f : Msg → Other) (hs : List (Html Msg)) (className : String) :
    AnyShows (mapAll f hs) className ↔ AnyShows hs className := by
  cases hs with
  | nil => simp [mapAll]
  | cons h rest =>
    rw [mapAll, anyShows_cons, anyShows_cons, shows_map f h className, anyShows_mapAll f rest className]

end

end Html

/-! ## The parts of a page -/

/-- What a page shows at some times only. -/
inductive Part where
  | badge
  | detail
  | merges
  deriving DecidableEq, Repr

/-- The class of its outermost element. -/
def Part.className : Part → String
  | .badge => "badge merge-badge"
  | .detail => "graph-panel node-detail"
  | .merges => "graph-panel merge-panel"

namespace Panel

variable {p : Part}

theorem shows_nodeDetail {n : Node} {relations : List (String × NodeId)} :
    (nodeDetail n relations).Shows p.className ↔ p = .detail := by
  cases p <;> simp [nodeDetail, header, relation, property, Part.className]

theorem shows_suggestionRow {busy : Bool} {s : Suggestion} :
    ¬ (suggestionRow busy s).Shows p.className := by
  cases busy <;> cases p <;> simp [suggestionRow, disabledIf, Part.className]

theorem shows_mergePanel {s : Suggestions} {busy : Bool} {error : Option String} :
    (mergePanel s busy error).Shows p.className ↔ p = .merges := by
  have rows (item : Suggestion) : ¬ (suggestionRow busy item).Shows p.className := shows_suggestionRow
  cases p <;> simp only [Part.className] at rows ⊢ <;> simp [mergePanel, header, rows]

end Panel

namespace View

variable {W N : Type} {v : View W N} {p : Part}

theorem shows_searchBox : ¬ v.searchBox.Shows p.className := by
  have item (id : NodeId) : ¬ (v.searchItem id).Shows p.className := by
    unfold searchItem
    split <;> cases p <;> simp [Part.className]
  cases p <;> simp only [Part.className] at item ⊢ <;> simp [searchBox, Html.shows_element, item]

theorem shows_toolbar : v.toolbar.Shows p.className ↔ p = .badge ∧ ∃ badge, v.badge? = some badge := by
  have box : ¬ v.searchBox.Shows p.className := shows_searchBox
  have icon : (if v.loading then "refresh-icon spinning" else "refresh-icon") ≠ p.className := by
    split <;> cases p <;> simp [Part.className]
  cases opened : v.searchOpen <;> cases p <;> simp only [Part.className] at box icon ⊢ <;>
    simp [toolbar, actions, mergeBadge, opened, icon, box]

theorem shows_card : v.card.Shows p.className ↔
    (p = .detail ∧ ∃ shown, v.detail? = some shown) ∨ (p = .merges ∧ ∃ s, v.merging? = some s) := by
  have overlay : ¬ Html.AnyShows (statusOverlay v.outcome) p.className := by
    unfold statusOverlay
    split <;> try split
    all_goals cases p <;> simp [List.replicate, Part.className]
  have note : ¬ Html.AnyShows v.truncationNote p.className := by
    unfold truncationNote
    split <;> cases p <;> simp [Part.className]
  have badges (key : EntityKey) (ids : List NodeId) : ¬ (v.typeBadge key ids).Shows p.className := by
    cases p <;> simp [typeBadge, Part.className]
  have detail (n : Node) (relations : List (String × NodeId)) :
      (Panel.nodeDetail n relations).Shows p.className ↔ p = .detail := Panel.shows_nodeDetail
  have merges (s : Suggestions) (busy : Bool) (error : Option String) :
      (Panel.mergePanel s busy error).Shows p.className ↔ p = .merges := Panel.shows_mergePanel
  cases p <;> simp only [Part.className] at overlay note badges detail merges ⊢ <;>
    simp [card, overlay, note, badges, canvasElement, Html.tagged, Html.shows_element, panels, detail, merges]

/-- Whether a part is there. -/
def Has (v : View W N) : Part → Prop
  | .badge => ∃ badge, v.badge? = some badge
  | .detail => ∃ shown, v.detail? = some shown
  | .merges => ∃ s, v.merging? = some s

/-- The page shows a part exactly if the view has it. -/
theorem shows_iff : v.render.Shows p.className ↔ v.Has p := by
  have root : (if v.fullscreen then "collection-graph fullscreen" else "collection-graph") ≠ p.className := by
    split <;> cases p <;> simp [Part.className]
  rw [render, Html.shows_classed, Html.anyShows_cons, Html.anyShows_cons, shows_toolbar, shows_card]
  cases p <;> simp [root, Has]

end View

end GraphViewer

import Mathlib.Data.List.Basic
import GraphViewer.View.Page
/-
What the user of a page can tell it. An element tells something when it is used, unless it is disabled, and
a page offers what its elements tell. For the page of a view this comes to a short list, by what the view
shows.
-/

namespace GraphViewer

variable {Msg Other : Type}

/-- What a listener tells when a click or a typed text sets it off. -/
def Listener.Tells : Listener Msg → Msg → Prop
  | .nothing, _ => False
  | .click message _, m => message = m
  | .input message, m => ∃ text, message text = m

/-- What an element tells when it is used. A disabled one tells nothing. -/
def Element.Tells (e : Element Msg) (m : Msg) : Prop :=
  e.isDisabled = false ∧ e.listener.Tells m

theorem Listener.tells_map (f : Msg → Other) (l : Listener Msg) (m : Other) :
    (l.map f).Tells m ↔ ∃ told, l.Tells told ∧ f told = m := by
  cases l <;> simp [Listener.map, Tells]

namespace Html

/-- Some element of the tree tells it. -/
def Tells (h : Html Msg) (m : Msg) : Prop :=
  ∃ e ∈ h.elements, e.Tells m

/-- Some element of the trees tells it. -/
def AnyTells (hs : List (Html Msg)) (m : Msg) : Prop :=
  ∃ e ∈ elementsAll hs, e.Tells m

section

variable {m : Msg} {hs : List (Html Msg)} {tag : String} {attributes : List (String × String)}

@[simp] theorem anyTells_nil : ¬ AnyTells [] m := by
  simp [AnyTells, elementsAll]

@[simp] theorem anyTells_cons {h : Html Msg} : AnyTells (h :: hs) m ↔ h.Tells m ∨ AnyTells hs m := by
  simp [AnyTells, Tells, elementsAll, or_and_right, exists_or]

@[simp] theorem anyTells_append {more : List (Html Msg)} :
    AnyTells (hs ++ more) m ↔ AnyTells hs m ∨ AnyTells more m := by
  induction hs with
  | nil => simp
  | cons h rest ih => simp [ih, or_assoc]

@[simp] theorem anyTells_map {α : Type} {show? : α → Html Msg} {items : List α} :
    AnyTells (items.map show?) m ↔ ∃ item ∈ items, (show? item).Tells m := by
  induction items with
  | nil => simp
  | cons item rest ih => simp [ih]

@[simp] theorem tells_text {content : String} : ¬ (text content).Tells m := by
  simp [Tells, elements]

/-- An element tells what it listens for, unless it is disabled, and what the elements in it tell. -/
theorem tells_element {listener : Listener Msg} :
    (element tag attributes listener hs).Tells m ↔
      ((∀ a ∈ attributes, a.1 ≠ "disabled") ∧ listener.Tells m) ∨ AnyTells hs m := by
  have enabled : (⟨attributes, listener, contentAll hs⟩ : Element Msg).isDisabled = false ↔
      ∀ a ∈ attributes, a.1 ≠ "disabled" := by
    simp [Element.isDisabled, Element.attribute?]
  simp only [Tells, AnyTells, elements, List.mem_cons, exists_eq_or_imp, Element.Tells, enabled]

@[simp] theorem tells_tagged : (tagged tag attributes hs).Tells m ↔ AnyTells hs m := by
  simp [tagged, tells_element, Listener.Tells]

@[simp] theorem tells_classed {className : String} : (classed tag className hs).Tells m ↔ AnyTells hs m :=
  tells_tagged

@[simp] theorem tells_plain : (plain tag hs).Tells m ↔ AnyTells hs m :=
  tells_tagged

@[simp] theorem tells_onClick {message : Msg} :
    (onClick tag attributes message hs).Tells m ↔
      ((∀ a ∈ attributes, a.1 ≠ "disabled") ∧ message = m) ∨ AnyTells hs m :=
  tells_element

@[simp] theorem tells_link {message : Msg} : (link message hs).Tells m ↔ message = m ∨ AnyTells hs m := by
  simp [link, tells_element, Listener.Tells]

end

mutual

/-- A tree with other messages tells what it told before, changed. -/
theorem tells_map (f : Msg → Other) (h : Html Msg) (m : Other) :
    (h.map f).Tells m ↔ ∃ told, h.Tells told ∧ f told = m := by
  cases h with
  | text content => simp [map]
  | element tag attributes listener children =>
    rw [map, tells_element, Listener.tells_map, anyTells_mapAll f children m]
    simp only [tells_element]
    constructor
    · rintro (⟨free, told, tells, rfl⟩ | ⟨told, inside, rfl⟩)
      · exact ⟨told, .inl ⟨free, tells⟩, rfl⟩
      · exact ⟨told, .inr inside, rfl⟩
    · rintro ⟨told, ⟨free, tells⟩ | inside, rfl⟩
      · exact .inl ⟨free, told, tells, rfl⟩
      · exact .inr ⟨told, inside, rfl⟩

theorem anyTells_mapAll (f : Msg → Other) (hs : List (Html Msg)) (m : Other) :
    AnyTells (mapAll f hs) m ↔ ∃ told, AnyTells hs told ∧ f told = m := by
  cases hs with
  | nil => simp [mapAll]
  | cons h rest =>
    rw [mapAll, anyTells_cons, tells_map f h m, anyTells_mapAll f rest m]
    simp only [anyTells_cons, or_and_right, exists_or]

end

end Html

/-! ## The panels -/

namespace Panel

variable {m : PanelMessage}

theorem tells_header {title : String} : (header title).Tells m ↔ .close = m := by
  simp [header]

/-- A node's panel can be closed, and names the nodes that its own is related to. -/
theorem tells_nodeDetail {n : Node} {relations : List (String × NodeId)} :
    (nodeDetail n relations).Tells m ↔ .close = m ∨ ∃ r ∈ relations, .select r.2 = m := by
  simp [nodeDetail, relation, property, tells_header]

/-- A suggestion names its nodes, and can be answered unless an answer is under way. -/
theorem tells_suggestionRow {busy : Bool} {s : Suggestion} :
    (suggestionRow busy s).Tells m ↔
      (∃ id ∈ s.entities, .select id = m) ∨ (busy = false ∧ ∃ action, .answer s.id action = m) := by
  have either : (∃ action, PanelMessage.answer s.id action = m) ↔
      .answer s.id .accept = m ∨ .answer s.id .reject = m := by
    constructor
    · rintro ⟨_ | _, rfl⟩ <;> simp
    · rintro (rfl | rfl) <;> exact ⟨_, rfl⟩
  cases busy <;> simp [suggestionRow, disabledIf, either]

theorem tells_mergePanel {s : Suggestions} {busy : Bool} {error : Option String} :
    (mergePanel s busy error).Tells m ↔ .close = m ∨ ∃ item ∈ s.items,
      (∃ id ∈ item.entities, .select id = m) ∨ (busy = false ∧ ∃ action, .answer item.id action = m) := by
  simp [mergePanel, tells_header, tells_suggestionRow]

end Panel

/-! ## The page of a view -/

namespace View

variable {W N : Type} {v : View W N} {m : Message}

/-- Something on the page of the view tells it. -/
def Offers (v : View W N) (m : Message) : Prop :=
  v.render.Tells m

theorem tells_searchBox : v.searchBox.Tells m ↔
    (∃ query, .searchFor query = m) ∨ ∃ id ∈ v.searchResults, .pick id = m := by
  simp [searchBox, searchItem, Html.tells_element, Listener.Tells]

theorem tells_toolbar : v.toolbar.Tells m ↔
    .toggleSearch = m ∨ (v.searchOpen = true ∧ v.searchBox.Tells m) ∨
      ((∃ badge, v.badge? = some badge) ∧ .openMerges = m) ∨ .refresh = m ∨ .toggleFullscreen = m := by
  cases opened : v.searchOpen <;> simp [toolbar, actions, mergeBadge, opened, or_assoc]

theorem tells_detail {n : Node} {relations : List (String × NodeId)} :
    ((Panel.nodeDetail n relations).map ofDetail).Tells m ↔
      .clearFocus = m ∨ ∃ r ∈ relations, .activate r.2 = m := by
  rw [Html.tells_map]
  constructor
  · rintro ⟨told, tells, rfl⟩
    rcases Panel.tells_nodeDetail.1 tells with rfl | ⟨r, member, rfl⟩
    · exact .inl rfl
    · exact .inr ⟨r, member, rfl⟩
  · rintro (rfl | ⟨r, member, rfl⟩)
    · exact ⟨.close, Panel.tells_nodeDetail.2 (.inl rfl), rfl⟩
    · exact ⟨.select r.2, Panel.tells_nodeDetail.2 (.inr ⟨r, member, rfl⟩), rfl⟩

theorem tells_merging {s : Suggestions} {busy : Bool} {error : Option String} :
    ((Panel.mergePanel s busy error).map ofMerge).Tells m ↔ .closeMerges = m ∨ ∃ item ∈ s.items,
      (∃ id ∈ item.entities, .activate id = m) ∨ (busy = false ∧ ∃ action, .answer item.id action = m) := by
  rw [Html.tells_map]
  constructor
  · rintro ⟨told, tells, rfl⟩
    rcases Panel.tells_mergePanel.1 tells with rfl | ⟨item, member, ⟨id, named, rfl⟩ | ⟨free, action, rfl⟩⟩
    · exact .inl rfl
    · exact .inr ⟨item, member, .inl ⟨id, named, rfl⟩⟩
    · exact .inr ⟨item, member, .inr ⟨free, action, rfl⟩⟩
  · rintro (rfl | ⟨item, member, ⟨id, named, rfl⟩ | ⟨free, action, rfl⟩⟩)
    · exact ⟨.close, Panel.tells_mergePanel.2 (.inl rfl), rfl⟩
    · exact ⟨.select id, Panel.tells_mergePanel.2 (.inr ⟨item, member, .inl ⟨id, named, rfl⟩⟩), rfl⟩
    · exact ⟨.answer item.id action,
        Panel.tells_mergePanel.2 (.inr ⟨item, member, .inr ⟨free, action, rfl⟩⟩), rfl⟩

theorem tells_card : v.card.Tells m ↔
    (∃ key ∈ v.groups.keys, .toggleType key = m) ∨
    (∃ n relations, v.detail? = some (n, relations) ∧
      (.clearFocus = m ∨ ∃ r ∈ relations, .activate r.2 = m)) ∨
    ∃ s, v.merging? = some s ∧ (.closeMerges = m ∨ ∃ item ∈ s.items,
      (∃ id ∈ item.entities, .activate id = m) ∨
        (v.merge.busy = false ∧ ∃ action, .answer item.id action = m)) := by
  have overlay : ¬ Html.AnyTells (statusOverlay v.outcome) m := by
    unfold statusOverlay
    split <;> try split
    all_goals simp [List.replicate]
  have note : ¬ Html.AnyTells v.truncationNote m := by
    unfold truncationNote
    split <;> simp
  simp [card, overlay, note, canvasElement, typeBadge, panels, Groups.keys, tells_detail, tells_merging]

/-- What a view lets its user tell it: a control works only while it is shown, and a list only names what
stands in it. -/
def Lets (v : View W N) : Message → Prop
  | .toggleSearch | .refresh | .toggleFullscreen => True
  | .searchFor _ => v.searchOpen = true
  | .pick id => v.searchOpen = true ∧ id ∈ v.searchResults
  | .openMerges => ∃ badge, v.badge? = some badge
  | .toggleType key => key ∈ v.groups.keys
  | .activate id =>
    (∃ n relations, v.detail? = some (n, relations) ∧ ∃ r ∈ relations, r.2 = id) ∨
      ∃ s, v.merging? = some s ∧ ∃ item ∈ s.items, id ∈ item.entities
  | .clearFocus => ∃ n relations, v.detail? = some (n, relations)
  | .closeMerges => ∃ s, v.merging? = some s
  | .answer suggestion _ =>
    v.merge.busy = false ∧ ∃ s, v.merging? = some s ∧ ∃ item ∈ s.items, item.id = suggestion

theorem offers_iff : v.Offers m ↔ v.Lets m := by
  rw [Offers, render, Html.tells_classed]
  cases m
  case answer suggestion action =>
    cases busy : v.merge.busy <;> simp [tells_toolbar, tells_searchBox, tells_card, Lets, busy]
  all_goals simp [tells_toolbar, tells_searchBox, tells_card, Lets]

/-- What the view lets its user tell it, worked out. -/
def lets? (v : View W N) : Message → Bool
  | .toggleSearch | .refresh | .toggleFullscreen => true
  | .searchFor _ => v.searchOpen
  | .pick id => v.searchOpen && v.searchResults.contains id
  | .openMerges => v.badge?.isSome
  | .toggleType key => v.groups.keys.contains key
  | .activate id =>
    (v.detail?.any fun (_, relations) => relations.any (·.2 == id)) ||
      v.merging?.any fun s => s.items.any (·.entities.contains id)
  | .clearFocus => v.detail?.isSome
  | .closeMerges => v.merging?.isSome
  | .answer suggestion _ => !v.merge.busy && v.merging?.any fun s => s.items.any (·.id == suggestion)

theorem lets?_iff : v.lets? m = true ↔ v.Lets m := by
  cases m <;> simp [lets?, Lets, Option.any_eq_true, Option.isSome_iff_exists]

instance : Decidable (v.Offers m) :=
  decidable_of_iff (v.lets? m = true) (lets?_iff.trans offers_iff.symm)

end View

end GraphViewer

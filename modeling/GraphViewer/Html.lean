/-
What a page shows, as a tree: texts, and elements with their attributes, what they listen to and what stands
in them. `Msg` is the type of what a listener says when it is set off, so that a tree also tells what its
user can do.
-/

namespace GraphViewer

/-- What an element listens to. -/
inductive Listener (Msg : Type) where
  | nothing
  /-- A click, which may keep the browser from doing what it would do by itself. -/
  | click (message : Msg) (prevents : Bool)
  /-- A text that is typed in. -/
  | input (message : String → Msg)

inductive Html (Msg : Type) where
  | text (content : String)
  | element (tag : String) (attributes : List (String × String)) (listener : Listener Msg)
      (children : List (Html Msg))

def Listener.map (f : α → β) : Listener α → Listener β
  | .nothing => .nothing
  | .click message prevents => .click (f message) prevents
  | .input message => .input (f ∘ message)

namespace Html

variable {Msg : Type}

/-! ## Building -/

/-- An element that listens to nothing. -/
def tagged (tag : String) (attributes : List (String × String)) (children : List (Html Msg)) : Html Msg :=
  .element tag attributes .nothing children

/-- An element of a class. -/
def classed (tag className : String) (children : List (Html Msg)) : Html Msg :=
  tagged tag [("class", className)] children

/-- An element without attributes. -/
def plain (tag : String) (children : List (Html Msg)) : Html Msg :=
  tagged tag [] children

/-- An element that says something when it is clicked. -/
def onClick (tag : String) (attributes : List (String × String)) (message : Msg)
    (children : List (Html Msg)) : Html Msg :=
  .element tag attributes (.click message false) children

/-- A link that leads nowhere by itself and says something when it is clicked. -/
def link (message : Msg) (children : List (Html Msg)) : Html Msg :=
  .element "a" [("href", "#")] (.click message true) children

mutual

/-- The tree with other messages. -/
def map (f : α → β) : Html α → Html β
  | .text content => .text content
  | .element tag attributes listener children =>
    .element tag attributes (listener.map f) (mapAll f children)

def mapAll (f : α → β) : List (Html α) → List (Html β)
  | [] => []
  | h :: rest => h.map f :: mapAll f rest

end

/-! ## Reading -/

mutual

/-- All the text in a tree. -/
def content : Html Msg → String
  | .text content => content
  | .element _ _ _ children => contentAll children

def contentAll : List (Html Msg) → String
  | [] => ""
  | h :: rest => h.content ++ contentAll rest

end

/-- Puts a tree in front of others: texts that meet become one, and an empty text is left out. -/
def prepend : Html Msg → List (Html Msg) → List (Html Msg)
  | .text a, .text b :: rest => .text (a ++ b) :: rest
  | .text a, rest => if a = "" then rest else .text a :: rest
  | h, rest => h :: rest

mutual

/-- The tree as it is seen, without the seams between texts. -/
def seamless : Html Msg → Html Msg
  | .text content => .text content
  | .element tag attributes listener children => .element tag attributes listener (seamlessAll children)

def seamlessAll : List (Html Msg) → List (Html Msg)
  | [] => []
  | h :: rest => prepend h.seamless (seamlessAll rest)

end

theorem contentAll_prepend (h : Html Msg) (rest : List (Html Msg)) :
    contentAll (prepend h rest) = h.content ++ contentAll rest := by
  unfold prepend
  split
  · simp [contentAll, content, String.append_assoc]
  · split
    · next empty => simp [content, empty]
    · rfl
  · rfl

mutual

/-- Joining texts changes nothing about what can be read. -/
theorem content_seamless (h : Html Msg) : h.seamless.content = h.content := by
  cases h with
  | text s => rfl
  | element tag attributes listener children => exact contentAll_seamlessAll children

theorem contentAll_seamlessAll (hs : List (Html Msg)) : contentAll (seamlessAll hs) = contentAll hs := by
  cases hs with
  | nil => rfl
  | cons h rest =>
    rw [seamlessAll, contentAll_prepend, content_seamless h, contentAll_seamlessAll rest]
    rfl

end

end Html

/-- An element taken by itself. -/
structure Element (Msg : Type) where
  attributes : List (String × String)
  listener : Listener Msg
  text : String

mutual

/-- The elements of a tree in the order in which they begin. -/
def Html.elements : Html Msg → List (Element Msg)
  | .text _ => []
  | .element _ attributes listener children =>
    ⟨attributes, listener, Html.contentAll children⟩ :: Html.elementsAll children

def Html.elementsAll : List (Html Msg) → List (Element Msg)
  | [] => []
  | h :: rest => h.elements ++ Html.elementsAll rest

end

namespace Element

variable {Msg : Type}

def attribute? (e : Element Msg) (name : String) : Option String :=
  (e.attributes.find? fun a => a.1 == name).map Prod.snd

def isDisabled (e : Element Msg) : Bool :=
  (e.attribute? "disabled").isSome

/-- What a click says, and whether it keeps the browser from doing what it would do by itself. -/
def click? (e : Element Msg) : Option (Msg × Bool) :=
  match e.listener with
  | .click message prevents => some (message, prevents)
  | _ => none

/-- What a text typed in says. -/
def input? (e : Element Msg) : Option (String → Msg) :=
  match e.listener with
  | .input message => some message
  | _ => none

end Element

/-- What the clicks on all elements that can be clicked say, in their order. -/
def Html.offers (page : List (Html Msg)) : List Msg :=
  ((Html.elementsAll page).filter fun e => !e.isDisabled).filterMap fun e => e.click?.map Prod.fst

end GraphViewer

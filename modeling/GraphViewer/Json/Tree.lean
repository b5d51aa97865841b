import GraphViewer.Json.Token
/-
The tree of a JSON text, as written and before any judgement. Building it never fails: a container that
does not end as it should says how it ends, and where a value is due and none stands there is a broken
tree. A reader that walks the tree in text order therefore meets the flaws and the values in the order of
the text, and decides for itself which of them matter.
-/

namespace GraphViewer.Json

/-- How the items of an array end. -/
inductive ArrayEnd where
  | closed
  | cut
  | unseparated
  | danglingComma
  deriving DecidableEq, Repr

/-- How the members of an object end. -/
inductive ObjectEnd where
  | closed
  | cut
  | unseparated
  | danglingComma
  | cutAfterComma
  | noKey
  deriving DecidableEq, Repr

inductive Tree where
  | null
  | bool (value : Bool)
  | number (numeral : Numeral)
  | string (quoted : Quoted)
  | array (items : List Tree) (finish : ArrayEnd)
  | object (members : List (Quoted × Tree)) (finish : ObjectEnd)
  | broken (flaw : Flaw)
  deriving Repr

/-- A container that is still open; its parts are listed latest first. In `member` the value of `key` is
due. -/
inductive Open where
  | array (items : List Tree)
  | object (members : List (Quoted × Tree))
  | member (members : List (Quoted × Tree)) (key : Quoted)

/-- What is due next. -/
inductive Due where
  | value
  | firstItem
  | item
  | firstKey
  | key
  | colon
  | separator
  deriving DecidableEq, Repr

/-- A finished value goes into the innermost open container; without one it is the whole tree. -/
def Open.put (t : Tree) : List Open → Tree ⊕ List Open
  | [] => .inl t
  | .array items :: up => .inr (.array (t :: items) :: up)
  | .object members :: up => .inr (.object members :: up)
  | .member members key :: up => .inr (.object ((key, t) :: members) :: up)

/-- The whole tree when nothing after `t` matters any more. -/
def Open.abandon (t : Tree) : List Open → Tree
  | [] => t
  | .array items :: up => abandon (.array (t :: items).reverse .cut) up
  | .object members :: up => abandon (.object members.reverse .cut) up
  | .member members key :: up => abandon (.object ((key, t) :: members).reverse .cut) up

/-- The whole tree when the innermost open array ends in this way, with a flaw. -/
def Open.endArray (finish : ArrayEnd) : List Open → Tree
  | .array items :: up => abandon (.array items.reverse finish) up
  | stack => abandon (.broken .noValue) stack

/-- The whole tree when the innermost open object ends in this way, with a flaw. -/
def Open.endObject (finish : ObjectEnd) : List Open → Tree
  | .object members :: up => abandon (.object members.reverse finish) up
  | stack => abandon (.broken .noValue) stack

/-- The whole tree when the text ends here. -/
def Open.cutOff (stack : List Open) : Due → Tree
  | .value | .item => abandon (.broken .cutValue) stack
  | .firstItem => endArray .cut stack
  | .firstKey => endObject .cut stack
  | .key => endObject .cutAfterComma stack
  | .colon => abandon (.broken .cutObject) stack
  | .separator =>
    match stack with
    | .array _ :: _ => endArray .cut stack
    | _ => endObject .cut stack

/-- A token that is a whole value. -/
def Token.leaf? : Token → Option Tree
  | .null => some .null
  | .bool b => some (.bool b)
  | .number n => some (.number n)
  | .string q => some (.string q)
  | _ => none

/-- What a token does: a finished value, a change of the open containers, or the end of all that
matters. -/
inductive Move where
  | finish (t : Tree) (up : List Open)
  | go (stack : List Open) (due : Due)
  | stop (t : Tree)

/-- The move of a token where a value is due. -/
def Token.asValue (token : Token) (stack : List Open) (due : Due) : Move :=
  match token, due, stack with
  | .openArray, _, _ => .go (.array [] :: stack) .firstItem
  | .openObject, _, _ => .go (.object [] :: stack) .firstKey
  | .closeArray, .firstItem, .array items :: up => .finish (.array items.reverse .closed) up
  | .closeArray, .item, _ => .stop (Open.endArray .danglingComma stack)
  | .broken flaw, _, _ => .stop (Open.abandon (.broken flaw) stack)
  | token, _, _ =>
    match token.leaf? with
    | some t => .finish t stack
    | none => .stop (Open.abandon (.broken .noValue) stack)

/-- The move of a token where a key is due. -/
def Token.asKey (token : Token) (stack : List Open) (due : Due) : Move :=
  match token, due, stack with
  | .string q, _, .object members :: up => .go (.member members q :: up) .colon
  | .closeObject, .firstKey, .object members :: up => .finish (.object members.reverse .closed) up
  | .closeObject, .key, _ => .stop (Open.endObject .danglingComma stack)
  | _, _, _ => .stop (Open.endObject .noKey stack)

/-- The move of a token after a value. -/
def Token.asSeparator (token : Token) (stack : List Open) : Move :=
  match stack, token with
  | .array _ :: _, .comma => .go stack .item
  | .array items :: up, .closeArray => .finish (.array items.reverse .closed) up
  | .array _ :: _, _ => .stop (Open.endArray .unseparated stack)
  | _, .comma => .go stack .key
  | .object members :: up, .closeObject => .finish (.object members.reverse .closed) up
  | _, _ => .stop (Open.endObject .unseparated stack)

def Token.move (token : Token) (stack : List Open) : Due → Move
  | .firstKey => token.asKey stack .firstKey
  | .key => token.asKey stack .key
  | .colon =>
    match token with
    | .colon => .go stack .value
    | _ => .stop (Open.abandon (.broken .noColon) stack)
  | .separator => token.asSeparator stack
  | due => token.asValue stack due

/-- The first tree that some tokens form, inside the open containers, and the tokens after it. -/
def Tree.build (stack : List Open) (due : Due) : List Token → Tree × List Token
  | [] => (Open.cutOff stack due, [])
  | token :: rest =>
    match token.move stack due with
    | .stop t => (t, rest)
    | .go stack due => build stack due rest
    | .finish t up =>
      match Open.put t up with
      | .inl t => (t, rest)
      | .inr stack => build stack .separator rest

/-- A text as a tree, and whether anything but space follows it. -/
structure Document where
  root : Tree
  trailing : Bool

def Document.ofText (text : String) : Document :=
  let (root, rest) := Tree.build [] .value (tokens text.toList)
  ⟨root, !rest.isEmpty⟩

end GraphViewer.Json

import GraphViewer.Json.Tree
import GraphViewer.Json.Scalar
/-
Decoding a tree into a typed value. Every decoder walks its part of the tree in text order and stops at
the first problem, be it a flaw of the writing or a value of the wrong kind. Parts that nobody asked for
are skipped, which looks at their writing only.
-/

namespace GraphViewer.Json

/-- Reads a tree, given how many containers may still be entered. -/
abbrev Decoder (α : Type) := Nat → Tree → Except Fault α

/-- A document may nest this many containers. -/
def depthLimit : Nat := 127

def flawed (result : Except Flaw α) : Except Fault α :=
  result.mapError .flaw

/-! ## Ends of containers -/

def ArrayEnd.close : ArrayEnd → Except Flaw Unit
  | .closed => .ok ()
  | .cut => .error .cutArray
  | .unseparated => .error .noArraySeparator
  | .danglingComma => .error .danglingComma

def ObjectEnd.close : ObjectEnd → Except Flaw Unit
  | .closed => .ok ()
  | .cut => .error .cutObject
  | .unseparated => .error .noObjectSeparator
  | .danglingComma => .error .danglingComma
  | .cutAfterComma => .error .cutValue
  | .noKey => .error .noKey

/-- The end of an array of which every item has been read, though it may hold more. -/
def ArrayEnd.closeRead : ArrayEnd → Except Flaw Unit
  | .unseparated => .error .trailing
  | finish => finish.close

def ArrayEnd.skip : ArrayEnd → Except Flaw Unit
  | .danglingComma => .error .noValue
  | finish => finish.close

def ObjectEnd.skip : ObjectEnd → Except Flaw Unit
  | .danglingComma => .error .noKey
  | .cutAfterComma => .error .cutObject
  | finish => finish.close

/-! ## Skipped and arbitrary values -/

mutual

/-- Looks at the writing of a value only. -/
def Tree.skip : Tree → Except Flaw Unit
  | .null | .bool _ => .ok ()
  | .number n => n.skip
  | .string q => q.skip
  | .array items finish => do skipItems items; finish.skip
  | .object members finish => do skipMembers members; finish.skip
  | .broken flaw => .error flaw

def skipItems : List Tree → Except Flaw Unit
  | [] => .ok ()
  | t :: rest => do t.skip; skipItems rest

def skipMembers : List (Quoted × Tree) → Except Flaw Unit
  | [] => .ok ()
  | (key, t) :: rest => do key.skip; t.skip; skipMembers rest

end

mutual

/-- Any value. Of a repeated key the last value counts. -/
def Tree.value (room : Nat) : Tree → Except Flaw Value
  | .null => .ok .null
  | .bool b => .ok (.bool b)
  | .number n => return .number (← n.number)
  | .string q => return .string (← q.text)
  | .array items finish =>
    match room with
    | 0 => .error .tooDeep
    | room + 1 => do
      let values ← itemValues room items
      finish.close
      return .array values
  | .object members finish =>
    match room with
    | 0 => .error .tooDeep
    | room + 1 => do
      let values ← memberValues room [] members
      finish.close
      return .object values
  | .broken flaw => .error flaw

def itemValues (room : Nat) : List Tree → Except Flaw (List Value)
  | [] => .ok []
  | t :: rest => do
    let v ← t.value room
    return v :: (← itemValues room rest)

/-- The members read so far, with those of a list added in turn. -/
def memberValues (room : Nat) (read : Members) : List (Quoted × Tree) → Except Flaw Members
  | [] => .ok read
  | (key, t) :: rest => do
    let k ← key.text
    let v ← t.value room
    memberValues room (read.insert k v) rest

end

/-! ## Kinds of values -/

/-- What stands at a place that expects something else, or its flaw. -/
def Token.mismatch (token : Token) (expected : Expected) : Fault :=
  match token with
  | .null => .wrongKind .null expected
  | .bool b => .wrongKind (.bool b) expected
  | .number n =>
    match n.number with
    | .ok n => .wrongKind (.number n) expected
    | .error flaw => .flaw flaw
  | .string q =>
    match q.text with
    | .ok s => .wrongKind (.string s) expected
    | .error flaw => .flaw flaw
  | .openArray => .wrongKind .array expected
  | .openObject => .wrongKind .object expected
  | .broken flaw => .flaw flaw
  | .closeArray | .closeObject | .comma | .colon => .flaw .noValue

/-- The token that a tree begins with. -/
def Tree.head : Tree → Token
  | .null => .null
  | .bool b => .bool b
  | .number n => .number n
  | .string q => .string q
  | .array _ _ => .openArray
  | .object _ _ => .openObject
  | .broken flaw => .broken flaw

def Tree.mismatch (t : Tree) (expected : Expected) : Fault :=
  t.head.mismatch expected

namespace Decode

def value : Decoder Value := fun room t => flawed (t.value room)

def string : Decoder String
  | _, .string q => flawed q.text
  | _, t => .error (t.mismatch .string)

def bool : Decoder Bool
  | _, .bool b => .ok b
  | _, t => .error (t.mismatch .bool)

/-- A natural number of 32 bits. -/
def word : Decoder Nat
  | _, .number n => do
    match ← flawed n.number with
    | .integer i =>
      if 0 ≤ i ∧ i.toNat < Nat.pow 2 32 then return i.toNat else .error (.wrongRange i .word)
    | .double x => .error (.wrongKind (.number (.double x)) .word)
  | _, t => .error (t.mismatch .word)

/-- A double; integers count too. -/
def double : Decoder Float
  | _, .number n => do return (← flawed n.number).toFloat
  | _, t => .error (t.mismatch .double)

/-- The members of an object of arbitrary values. -/
def members : Decoder Members
  | 0, .object _ _ => .error (.flaw .tooDeep)
  | room + 1, .object ms finish => flawed do
    let values ← memberValues room [] ms
    finish.close
    return values
  | _, t => .error (t.mismatch .object)

def list (item : Decoder α) : Decoder (List α)
  | 0, .array _ _ => .error (.flaw .tooDeep)
  | room + 1, .array items finish => do
    let values ← items.mapM (item room)
    flawed finish.close
    return values
  | _, t => .error (t.mismatch .array)

/-- Null, or a value of this kind. -/
def optional (inner : Decoder α) : Decoder (Option α)
  | _, .null => .ok none
  | room, t => some <$> inner room t

/-- A list, where null stands for the empty one. -/
def listOrNull (item : Decoder α) : Decoder (List α) := fun room t =>
  (·.getD []) <$> optional (list item) room t

/-- A name given as a string or as a number, which is taken by its text. -/
def name : Decoder String := fun room t => do
  match ← value room t with
  | .string s => return s
  | .number n => return n.text
  | other => .error (.notAnId other)

/-- One of a few words: the string itself, or an object with the word as its only key and null as its
value. -/
def choice (choices : List (String × α)) : Decoder α := fun room t =>
  let pick (s : String) : Except Fault α :=
    match choices.find? (·.1 == s) with
    | some (_, a) => .ok a
    | none => .error (.unknownChoice s (choices.map Prod.fst))
  match room, t with
  | _, .string q => do pick (← flawed q.text)
  | 0, .object _ _ => .error (.flaw .tooDeep)
  | _ + 1, .object [] .closed => .error (.flaw .noValue)
  | _ + 1, .object [] .cut => .error (.flaw .cutObject)
  | _ + 1, .object [] _ => .error (.flaw .noKey)
  | _ + 1, .object ((key, t) :: rest) finish => do
    let a ← pick (← flawed key.text)
    match t with
    | .null => pure ()
    | t => .error (t.mismatch .nothing)
    match rest, finish with
    | [], .closed => return a
    | [], .cut => .error (.flaw .cutObject)
    | _, _ => .error (.flaw .noValue)
  | _, .broken .noColon => .error (.flaw .noColon)
  | _, .broken .cutObject => .error (.flaw .cutObject)
  | _, .broken .cutValue => .error (.flaw .cutValue)
  | _, _ => .error (.flaw .noValue)

end Decode

/-! ## Records -/

/-- A field of a record, where `ρ` holds what has been read of the record. Messages use the first of its
names. -/
structure Field (ρ : Type) where
  name : String
  aliases : List String := []
  required : Bool := false
  isSet : ρ → Bool
  read : Decoder (ρ → ρ)

def Field.answersTo (f : Field ρ) (key : String) : Bool :=
  f.name == key || f.aliases.contains key

/-- A record with named fields. `build` completes what has been read, or tells which field is missing. -/
structure Record (ρ α : Type) where
  name : String
  fields : List (Field ρ)
  blank : ρ
  build : ρ → Except Fault α

/-- Reads one member: a field is read once, and a member with an unknown name is skipped. -/
def Record.readMember (r : Record ρ α) (room : Nat) (read : ρ) (member : Quoted × Tree) :
    Except Fault ρ := do
  let key ← flawed member.1.text
  match r.fields.find? (·.answersTo key) with
  | none => do
    flawed member.2.skip
    return read
  | some f =>
    if f.isSet read then .error (.duplicate f.name)
    else return (← f.read room member.2) read

/-- Reads the fields of a record given as an array, in their order. Fields that are not required may be
left out at the end; `count` fields have been passed before. -/
def Record.readItems (r : Record ρ α) (room : Nat) (finish : ArrayEnd) :
    List (Field ρ) → List Tree → Nat → ρ → Except Fault ρ
  | [], [], _, read => do
    flawed finish.closeRead
    return read
  | [], _ :: _, _, _ => .error (.flaw .trailing)
  | f :: fields, t :: items, count, read => do
    let set ← f.read room t
    readItems r room finish fields items (count + 1) (set read)
  | f :: fields, [], count, read => do
    flawed finish.close
    if f.required then .error (.short count r.name r.fields.length)
    else readItems r room finish fields [] (count + 1) read

/-- A record, given as an object of its fields or as an array of them. -/
def Record.decode (r : Record ρ α) : Decoder α
  | 0, .object _ _ | 0, .array _ _ => .error (.flaw .tooDeep)
  | room + 1, .object members finish => do
    let read ← members.foldlM (r.readMember room) r.blank
    flawed finish.close
    r.build read
  | room + 1, .array items finish => do
    r.build (← r.readItems room finish r.fields items 0 r.blank)
  | _, t => .error (t.mismatch (.record r.name))

/-- The value of a required field. -/
def required (name : String) : Option α → Except Fault α
  | some a => .ok a
  | none => .error (.missing name)

/-- Reads a whole text. -/
def decode (d : Decoder α) (text : String) : Except Fault α := do
  let document := Document.ofText text
  let a ← d depthLimit document.root
  if document.trailing then .error (.flaw .trailing) else return a

end GraphViewer.Json

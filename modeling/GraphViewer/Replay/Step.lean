import GraphViewer.Replay.Basic
/-
The steps of a script: what the user does on the page, what happens to the window, and time that passes.
-/

namespace GraphViewer

/-- How the user picks an element of the page: by its whole text, its title and its class, and by its place
among the elements that fit. -/
structure Pick where
  text : Option String
  title : Option String
  className : Option String
  place : Nat
  deriving DecidableEq, Repr

def Pick.fits (p : Pick) (e : Element Msg) : Bool :=
  p.text.all (· == e.text) && p.title.all (e.attribute? "title" == some ·) &&
    p.className.all (e.attribute? "class" == some ·)

/-- The element picked, of those that something can be done with, and what that is. -/
def Pick.find? (p : Pick) (can : Element Msg → Option α) (page : List (Html Msg)) :
    Option (Element Msg × α) :=
  (((Html.elementsAll page).filter p.fits).filterMap fun e => (can e).map (e, ·))[p.place]?

/-- A step of a script. -/
inductive Act (W : Type) where
  | click (pick : Pick)
  | input (pick : Pick) (text : String)
  | point (event : PointerEvent W)
  | wait (ms : Nat)
  | frames (count : Nat)
  | resize (room : Option (Int × Int))
  | navigate (route : Option String)
  | leave
  deriving Repr

/-- What can be told of a step at once. -/
inductive Response (W : Type) where
  | nothing
  | fired
  | prevented
  | disabled
  | noSuchElement
  | clock (ms : Nat)
  | painted (strokes : List (Stroke W))
  | listeners (count : Nat)
  deriving Repr

namespace Replay

variable {W N : Type} [Scalar W] [Scalar N] [Narrowing W N]

/-- Something happens to the view, if it is still there. -/
def onView (r : Replay W N) (f : View W N → Turn W N) : Replay W N :=
  r.present?.elim r fun v => r.absorb (f v)

/-! ## The user -/

def click (r : Replay W N) (pick : Pick) : Replay W N × Response W :=
  match pick.find? Element.click? r.shown with
  | none => (r, .noSuchElement)
  | some (e, message, prevents) =>
    if e.isDisabled then (r, .disabled)
    else (r.onView (·.handle message), if prevents then .prevented else .fired)

def input (r : Replay W N) (pick : Pick) (text : String) : Replay W N × Response W :=
  match pick.find? Element.input? r.shown with
  | none => (r, .noSuchElement)
  | some (e, message) =>
    if e.isDisabled then (r, .disabled) else (r.onView (·.handle (message text)), .fired)

/-- The pointer does something on the canvas. The wheel does not move the page. -/
def point (r : Replay W N) (e : PointerEvent W) : Replay W N × Response W :=
  match r.present? with
  | none => (r, .noSuchElement)
  | some v =>
    (r.absorb (v.point e), match e with
      | .wheel _ _ => .prevented
      | _ => .fired)

/-! ## The window -/

/-- The next frame, which asks for the one after it while the page is there. -/
def frame? (r : Replay W N) : Option (Replay W N × List (Stroke W)) :=
  if r.framePending then
    match r.present? with
    | none => some ({ r with framePending := false }, [])
    | some v => (v.frame? r.measure).map fun (next, strokes) => ({ r with view := some next }, strokes)
  else some (r, [])

/-- Some frames, with the strokes of the last one. -/
def frames? (r : Replay W N) (last : List (Stroke W)) : Nat → Option (Replay W N × List (Stroke W))
  | 0 => some (r, last)
  | n + 1 => r.frame?.bind fun (next, strokes) => next.frames? strokes n

def resize (r : Replay W N) (room : Option (Int × Int)) : Replay W N :=
  r.onView fun v => (v.resize room).quiet

/-- Time passes. The clock stops wherever a call ends. -/
def wait? (r : Replay W N) (ms : Nat) : Option (Replay W N) :=
  (r.runUntil? (r.clock + ms)).map fun later => { later with clock := r.clock + ms }

/-! ## Steps -/

def act? (r : Replay W N) : Act W → Option (Replay W N × Response W)
  | .click pick => some (r.click pick)
  | .input pick text => some (r.input pick text)
  | .point e => some (r.point e)
  | .wait ms => (r.wait? ms).map fun later => (later, .clock later.clock)
  | .frames count => (r.frames? [] count).map fun (later, strokes) => (later, .painted strokes)
  | .resize room => some (r.resize room, .listeners r.resizeListeners)
  | .navigate route => some (r.onView (·.navigate route), .nothing)
  | .leave => some ({ r with isLeft := true }, .nothing)

/-- A step of the script, up to where nothing more happens without time. -/
def step? (r : Replay W N) (a : Act W) : Option (Replay W N × Response W) := do
  let (acted, response) ← { r with sent := [], notices := [] }.act? a
  let settled ← acted.settle?
  return (settled, response)

end Replay

end GraphViewer

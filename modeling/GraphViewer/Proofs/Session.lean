import GraphViewer.Proofs.Offers
/-
A view with its calls, from the moment it comes up. What happens to it comes in any order: the user uses
what the page offers, the pointer does something on the canvas, the route leads elsewhere, the room of the
canvas changes, a frame is painted, and calls under way end, each of them once, with any reply or with none.
Whatever follows from one of these inside the view is over before the next one happens.

For a run of such events, `Began` tells with which of them something began to hold, `SetBy` which of them made
a part of the view what it is, and `Sourced` that this part came from a call for the collection that is shown.
-/

namespace GraphViewer

inductive Event (W : Type) where
  | use (message : Message)
  | point (event : PointerEvent W)
  | navigate (route : Option String)
  | resize (room : Option (Int × Int))
  | frame (measure : Measure W)
  | reply (call : Call) (reply : Option Reply)

structure Session (W N : Type) where
  view : View W N
  /-- All calls started so far, in this order. -/
  issued : List Call
  /-- Those of them that have not ended. -/
  waiting : List Call

namespace Session

variable {W N : Type} [Scalar W] [Scalar N] [Narrowing W N]

/-- Goes over to the view after something happened to it, and starts its calls. -/
def follow (s : Session W N) (t : Turn W N) : Session W N :=
  ⟨t.view, s.issued ++ t.calls, s.waiting ++ t.calls⟩

/-- A call is no longer under way. -/
def without (s : Session W N) (call : Call) : Session W N :=
  { s with waiting := s.waiting.erase call }

/-- The view as it comes up. -/
def mount (config : Config) (access : Access) (route : Option String) (site : Site W) : Session W N :=
  let t := View.mount config access route site
  ⟨t.view, t.calls, t.calls⟩

inductive Step (s : Session W N) : Event W → Session W N → Prop
  | use {m : Message} : s.view.Offers m → Step s (.use m) (s.follow (s.view.handle m))
  | point (e : PointerEvent W) : Step s (.point e) (s.follow (s.view.point e))
  | navigate (route : Option String) : Step s (.navigate route) (s.follow (s.view.navigate route))
  | resize (room : Option (Int × Int)) : Step s (.resize room) (s.follow (s.view.resize room).quiet)
  | frame {measure : Measure W} {next : View W N} {strokes : List (Stroke W)} :
      s.view.frame? measure = some (next, strokes) → Step s (.frame measure) (s.follow next.quiet)
  | reply (call : Call) (answer : Option Reply) : call ∈ s.waiting →
      Step s (.reply call answer) ((s.without call).follow (s.view.replied call answer))

/-- Some events happen to a session, one after the other. -/
inductive Run (start : Session W N) : List (Event W) → Session W N → Prop
  | nil : Run start [] start
  | snoc {events : List (Event W)} {s next : Session W N} {e : Event W} :
      Run start events s → Step s e next → Run start (events ++ [e]) next

section

variable {start s next a b : Session W N} {events later : List (Event W)} {e : Event W}

theorem Step.unique (one : Step s e a) (other : Step s e b) : a = b := by
  cases one <;> cases other <;> try rfl
  case frame.frame painted _ _ again =>
    rw [painted] at again
    cases again
    rfl

theorem Run.unique (one : Run start events a) (other : Run start events b) : a = b := by
  induction one generalizing b with
  | nil =>
    generalize empty : ([] : List (Event W)) = none at other
    cases other with
    | nil => rfl
    | snoc _ _ => simp at empty
  | @snoc before s next e earlier step ih =>
    generalize same : before ++ [e] = all at other
    cases other with
    | nil => simp at same
    | snoc before' step' =>
      obtain ⟨rfl, rfl⟩ : before = _ ∧ e = _ := by simpa using List.append_inj' same rfl
      cases ih before'
      exact step.unique step'

theorem Run.trans (one : Run start events a) (other : Run a later b) : Run start (events ++ later) b := by
  induction other with
  | nil => simpa using one
  | snoc _ step ih =>
    rw [← List.append_assoc]
    exact ih.snoc step

theorem Run.cons (step : Step start e a) (rest : Run a events b) : Run start (e :: events) b :=
  Run.trans (.snoc .nil step) rest

/-- A run that is not empty starts with one step. -/
theorem Run.uncons (run : Run start (e :: later) s) :
    ∃ between, Step start e between ∧ Run between later s := by
  -- a run grows at its end, so what comes first is found by induction on what comes after it
  generalize same : e :: later = all at run
  induction run generalizing later with
  | nil => cases same
  | @snoc before s next last earlier step ih =>
    cases before with
    | nil =>
      obtain ⟨rfl, rfl⟩ : e = last ∧ later = [] := by simpa using same
      cases earlier.unique .nil
      exact ⟨next, step, .nil⟩
    | cons first rest =>
      obtain ⟨rfl, rfl⟩ : e = first ∧ later = rest ++ [last] := by simpa using same
      obtain ⟨between, stepped, rest⟩ := ih rfl
      exact ⟨between, stepped, rest.snoc step⟩

/-- What holds at the start and is kept by every step holds throughout. -/
theorem Run.keeps (holds : Session W N → Prop) (run : Run start events s) (initially : holds start)
    (kept : ∀ {s e next}, holds s → Step s e next → holds next) : holds s := by
  induction run with
  | nil => exact initially
  | snoc _ step ih => exact kept ih step

end

/-- On the way of a run `e` leads from `s` to `next`. -/
def Passes (start : Session W N) (events : List (Event W)) (s : Session W N) (e : Event W)
    (next : Session W N) : Prop :=
  ∃ earlier later, events = earlier ++ e :: later ∧ Run start earlier s ∧ Step s e next

/-- Something began to hold with the event `e`, which happened to `before`, and has held ever since. -/
inductive Began (holds : Session W N → Prop) (start : Session W N) :
    List (Event W) → Session W N → Session W N → Event W → Prop
  | now {events : List (Event W)} {before after : Session W N} {e : Event W} :
      Run start events before → Step before e after → ¬ holds before → holds after →
      Began holds start (events ++ [e]) after before e
  | still {events : List (Event W)} {s next before : Session W N} {e later : Event W} :
      Began holds start events s before e → Step s later next → holds next →
      Began holds start (events ++ [later]) next before e

/-- What holds now and not at the start began at some event. -/
theorem Run.began {holds : Session W N → Prop} {start s : Session W N} {events : List (Event W)}
    (run : Run start events s) (initially : ¬ holds start) (now : holds s) :
    ∃ before e, Began holds start events s before e := by
  induction run with
  | nil => exact absurd now initially
  | @snoc earlier s next e run step ih =>
    by_cases already : holds s
    · obtain ⟨before, cause, began⟩ := ih already
      exact ⟨before, cause, began.still step now⟩
    · exact ⟨s, e, .now run step already now⟩

theorem Began.run {holds : Session W N → Prop} {start s before : Session W N} {events : List (Event W)}
    {e : Event W} (began : Began holds start events s before e) : Run start events s := by
  induction began with
  | now run step _ _ => exact run.snoc step
  | still _ step _ ih => exact ih.snoc step

theorem Began.holds {holds : Session W N → Prop} {start s before : Session W N} {events : List (Event W)}
    {e : Event W} (began : Began holds start events s before e) : holds s := by
  cases began with
  | now _ _ _ now => exact now
  | still _ _ still => exact still

/-- It began with a step of the run. -/
theorem Began.step {holds : Session W N → Prop} {start s before : Session W N} {events : List (Event W)}
    {e : Event W} (began : Began holds start events s before e) :
    ∃ earlier after, Run start earlier before ∧ Step before e after ∧ ¬ holds before ∧ holds after := by
  induction began with
  | now run step free holds => exact ⟨_, _, run, step, free, holds⟩
  | still _ _ _ ih => exact ih

/-! ## Where a part of the view comes from -/

variable {β : Type}

/-- A part of the view is as the event `e` of the run left it: `e` changed it, and nothing has changed it
since. -/
inductive SetBy (part : View W N → β) (start : Session W N) :
    List (Event W) → Session W N → Event W → Prop
  | now {events : List (Event W)} {s next : Session W N} {e : Event W} :
      Run start events s → Step s e next → part next.view ≠ part s.view →
      SetBy part start (events ++ [e]) next e
  | since {events : List (Event W)} {s next : Session W N} {e later : Event W} :
      SetBy part start events s e → Step s later next → part next.view = part s.view →
      SetBy part start (events ++ [later]) next e

theorem SetBy.run {part : View W N → β} {start s : Session W N} {events : List (Event W)} {e : Event W}
    (setBy : SetBy part start events s e) : Run start events s := by
  induction setBy with
  | now run step _ => exact run.snoc step
  | since _ step _ ih => exact ih.snoc step

/-- What changes a part of the view sets it. -/
theorem SetBy.of_changed {part : View W N → β} {start s next : Session W N} {events : List (Event W)}
    {e setter : Event W} (setBy : SetBy part start (events ++ [e]) next setter) (run : Run start events s)
    (changed : part next.view ≠ part s.view) : setter = e := by
  generalize same : events ++ [e] = all at setBy
  cases setBy with
  | now _ _ _ =>
    obtain ⟨_, rfl⟩ : events = _ ∧ e = setter := by simpa using List.append_inj' same rfl
    rfl
  | @since before t _ _ last earlier step kept =>
    obtain ⟨rfl, rfl⟩ : events = before ∧ e = last := by simpa using List.append_inj' same rfl
    cases run.unique earlier.run
    exact absurd kept changed

/-- A part of the view is idle, or it was set by an event that `gives` it for the collection now shown. -/
def Sourced (part : View W N → β) (idle : β) (gives : CollectionId → Event W → β → Prop)
    (start : Session W N) (events : List (Event W)) (s : Session W N) : Prop :=
  part s.view = idle ∨
    ∃ collection e, SetBy part start events s e ∧ gives collection e (part s.view) ∧
      s.view.scope.shown = some collection

/-- It stays so over a step that leaves the part alone and shows the same collection, that makes the part
idle, or that gives it for the collection shown. -/
theorem Sourced.step {part : View W N → β} {idle : β} {gives : CollectionId → Event W → β → Prop}
    {start s next : Session W N} {events : List (Event W)} {e : Event W}
    (sourced : Sourced part idle gives start events s) (run : Run start events s) (step : Step s e next)
    (kinds : (part next.view = part s.view ∧ ∀ collection, s.view.scope.shown = some collection →
        next.view.scope.shown = some collection) ∨
      part next.view = idle ∨
      ∃ collection, gives collection e (part next.view) ∧ s.view.scope.shown = some collection ∧
        next.view.scope.shown = some collection) :
    Sourced part idle gives start (events ++ [e]) next := by
  by_cases same : part next.view = part s.view
  · rcases sourced with was | ⟨earlier, setter, setBy, given, shown⟩
    · exact .inl (same.trans was)
    · rcases kinds with ⟨_, kept⟩ | idle | ⟨collection, _, before, after⟩
      · exact .inr ⟨earlier, setter, setBy.since step same, same ▸ given, kept earlier shown⟩
      · exact .inl idle
      · have still := after.trans (before.symm.trans shown)
        exact .inr ⟨earlier, setter, setBy.since step same, same ▸ given, still⟩
  · rcases kinds with ⟨unchanged, _⟩ | idle | ⟨collection, given, _, after⟩
    · exact absurd unchanged same
    · exact .inl idle
    · exact .inr ⟨collection, e, .now run step same, given, after⟩

/-- A part that a step just set is sourced only if the step gives it for the collection then shown. -/
theorem Sourced.of_changed {part : View W N → β} {idle : β} {gives : CollectionId → Event W → β → Prop}
    {start s next : Session W N} {events : List (Event W)} {e : Event W}
    (sourced : Sourced part idle gives start (events ++ [e]) next) (run : Run start events s)
    (changed : part next.view ≠ part s.view) (present : part next.view ≠ idle) :
    ∃ collection, gives collection e (part next.view) ∧ next.view.scope.shown = some collection := by
  rcases sourced with idle | ⟨collection, setter, setBy, given, shown⟩
  · exact absurd idle present
  · cases setBy.of_changed run changed
    exact ⟨collection, given, shown⟩

end Session

/-- Two collections, for closed runs. -/
def collectionA : CollectionId :=
  ⟨"A", by decide +kernel, by decide⟩

def collectionB : CollectionId :=
  ⟨"B", by decide +kernel, by decide⟩

end GraphViewer

import GraphViewer.Replay.Script
import GraphViewer.View.Page
/-
A page in use under a script. Time passes only when the script says so. Calls that end at the same time are
dealt with in the order in which they were started, and a call that takes no time ends in the step that
starts it.
-/

namespace GraphViewer

structure Replay (W N : Type) where
  page : Page
  view : Option (View W N)
  /-- The page was left. Its calls still come to an end. -/
  isLeft : Bool
  script : Script
  clock : Nat
  /-- The calls under way, in the order in which they were started. -/
  waiting : List Waiting
  framePending : Bool
  measure : Measure W
  /-- What was sent in the current step. -/
  sent : List Sent
  /-- What was logged in the current step. -/
  notices : List Notice

namespace Replay

section

variable {W N : Type}

/-- The view, unless the page was left. -/
def present? (r : Replay W N) : Option (View W N) :=
  if r.isLeft then none else r.view

/-- What is shown. -/
def shown (r : Replay W N) : List (Html Message) :=
  if r.isLeft then [] else r.page.show r.view

/-- The size of the canvas, if there is one. A canvas that was left keeps its last size. -/
def canvasSize? (r : Replay W N) : Option (Nat × Nat) :=
  r.view.map (·.canvas.size)

/-- How many listen to a change of the window's size: the canvas, if it can be drawn on. -/
def resizeListeners (r : Replay W N) : Nat :=
  if (r.present?.bind (·.canvas.layout)).isSome then 1 else 0

/-! ## Calls -/

/-- The calls under way. -/
def calls (r : Replay W N) : List Call :=
  r.waiting.map Waiting.call

/-- Starts a call of a view. -/
def start (v : View W N) (r : Replay W N) (call : Call) : Replay W N :=
  let (answer, script) := r.script.next call
  let (elapsed, reply) := answer.await v.client.timeoutMs
  { r with
    script := script
    sent := r.sent ++ [v.client.sent (call.request v.access)]
    waiting := r.waiting ++ [⟨call, r.clock + elapsed, reply⟩] }

/-- Goes over to a view after something happened to it. -/
def absorb (r : Replay W N) (t : Turn W N) : Replay W N :=
  t.calls.foldl (start t.view) { r with view := some t.view, notices := r.notices ++ t.notices }

theorem calls_foldl_start (v : View W N) (started : List Call) (r : Replay W N) :
    (started.foldl (start v) r).calls = r.calls ++ started := by
  induction started generalizing r with
  | nil => simp
  | cons first rest ih =>
    rw [List.foldl_cons, ih]
    simp [start, calls]

theorem calls_absorb (r : Replay W N) (t : Turn W N) : (r.absorb t).calls = r.calls ++ t.calls := by
  rw [absorb, calls_foldl_start]
  rfl

end

variable {W N : Type} [Scalar W] [Scalar N] [Narrowing W N]

/-! ## Time -/

/-- What a call logs that ends after the page was left. An answer that was passed on wants everything read
anew, and breaks down. -/
def lateNotices? (v : View W N) (call : Call) (reply : Option Reply) : Option (List Notice) :=
  match call, v.client.body (call.request v.access) reply with
  | .action _ _ _, .ok _ => none
  | _, _ => some (v.replied call reply).notices

/-- A call ends, and the others stay under way. -/
def deliver? (r : Replay W N) (w : Waiting) (others : List Waiting) : Option (Replay W N) :=
  let now := { r with clock := w.due, waiting := others }
  match r.view with
  | none => some now
  | some v =>
    if r.isLeft then
      (lateNotices? v w.call w.reply).map fun late => { now with notices := r.notices ++ late }
    else some (now.absorb (v.replied w.call w.reply))

theorem totalWeight_deliver? {r next : Replay W N} {w : Waiting} {others : List Waiting}
    (found : earliest? r.waiting = some (w, others)) (delivered : r.deliver? w others = some next) :
    totalWeight next.calls < totalWeight r.calls := by
  have sum := totalWeight_earliest? found
  have positive := w.call.weight_pos
  simp only [deliver?] at delivered
  split at delivered
  · cases delivered
    simp only [calls]
    omega
  · next v _ =>
    split at delivered
    · obtain ⟨late, _, rfl⟩ := Option.map_eq_some_iff.1 delivered
      simp only [calls]
      omega
    · cases delivered
      have lighter := v.totalWeight_replied w.call w.reply
      rw [calls_absorb, totalWeight_append]
      simp only [calls]
      omega

/-- Lets the calls end that are due by some time, one after the other. Nothing is left if one of them
breaks down. -/
def runUntil? (limit : Nat) (r : Replay W N) : Option (Replay W N) :=
  match _found : earliest? r.waiting with
  | none => some r
  | some (w, others) =>
    if w.due ≤ limit then
      match _delivered : r.deliver? w others with
      | none => none
      | some next => runUntil? limit next
    else some r
termination_by totalWeight r.calls
decreasing_by exact totalWeight_deliver? _found _delivered

/-- Lets the calls end that take no time. -/
def settle? (r : Replay W N) : Option (Replay W N) :=
  r.runUntil? r.clock

/-- Opens a page. -/
def open? (page : Page) (config : Config) (route : Option String) (site : Site W) (script : Script)
    (measure : Measure W) : Option (Replay W N) :=
  let r : Replay W N := ⟨page, none, false, script, 0, [], false, measure, [], []⟩
  match page.access? with
  | none => some r
  | some access =>
    { r.absorb (View.mount config access route site) with framePending := site.drawable }.settle?

end Replay

end GraphViewer

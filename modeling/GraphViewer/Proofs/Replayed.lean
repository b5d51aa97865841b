import GraphViewer.Replay.Step
import GraphViewer.Proofs.Session
/-
A page in use under a script goes through a run: each step of the script is some events of a session, until
the page is left. So what holds after every run holds of every page in use, whatever its script says.
-/

namespace GraphViewer

variable {W N : Type}

theorem perm_earliest? {ws others : List Waiting} {w : Waiting} (found : earliest? ws = some (w, others)) :
    ws.Perm (w :: others) := by
  induction ws generalizing w others with
  | nil => cases found
  | cons first rest ih =>
    rw [earliest?] at found
    cases later : earliest? rest with
    | none =>
      rw [later] at found
      cases found
      rw [earliest?_eq_none later]
    | some next =>
      obtain ⟨u, left⟩ := next
      rw [later] at found
      dsimp only at found
      split at found
      · cases found
        exact ((ih later).cons first).trans (.swap _ _ _)
      · cases found
        exact .refl _

/-- Only the view tells the user's page anything. -/
theorem Page.offers_of_show {p : Page} {v : Option (View W N)} {m : Message}
    (told : Html.AnyTells (p.show v) m) : ∃ present, v = some present ∧ present.Offers m := by
  cases v with
  | none => cases p <;> simp [Page.show] at told
  | some present =>
    refine ⟨present, rfl, ?_⟩
    cases p with
    | notFound => simp [Page.show] at told
    | bare => simpa [Page.show, View.Offers] using told
    | owned => simpa [Page.show, View.Offers] using told
    | marketplace => simpa [Page.show, View.Offers] using told

namespace Replay

variable {r next : Replay W N} {s : Session W N}

/-- The page shows the view of the session, and has its calls under way. -/
structure Follows (r : Replay W N) (s : Session W N) : Prop where
  stays : r.isLeft = false
  view : r.view = some s.view
  calls : r.calls.Perm s.waiting

theorem Follows.present (follows : r.Follows s) : r.present? = some s.view := by
  rw [present?, if_neg (by simp [follows.stays]), follows.view]

theorem foldl_start_keeps (v : View W N) (started : List Call) (r : Replay W N) :
    (started.foldl (start v) r).view = r.view ∧ (started.foldl (start v) r).isLeft = r.isLeft := by
  induction started generalizing r with
  | nil => exact ⟨rfl, rfl⟩
  | cons first rest ih => exact ih (start v r first)

theorem Follows.absorb (follows : r.Follows s) (t : Turn W N) : (r.absorb t).Follows (s.follow t) where
  stays := (foldl_start_keeps t.view t.calls _).2.trans follows.stays
  view := (foldl_start_keeps t.view t.calls _).1
  calls := by
    rw [calls_absorb]
    exact follows.calls.append_right t.calls

variable [Scalar W] [Scalar N] [Narrowing W N]

/-- The page has gone on as the session can. -/
def Continues (s : Session W N) (r : Replay W N) : Prop :=
  ∃ events t, Session.Run s events t ∧ r.Follows t

theorem Follows.continues (follows : r.Follows s) : Continues s r :=
  ⟨[], s, .nil, follows⟩

theorem Continues.after {t : Session W N} {events : List (Event W)} (run : Session.Run s events t)
    (rest : Continues t r) : Continues s r := by
  obtain ⟨later, last, run', follows⟩ := rest
  exact ⟨events ++ later, last, run.trans run', follows⟩

theorem Follows.step {t : Session W N} {e : Event W} (step : Session.Step s e t) (follows : r.Follows t) :
    Continues s r :=
  ⟨[e], t, .snoc .nil step, follows⟩

/-! ## Time -/

theorem Follows.deliver (follows : r.Follows s) {w : Waiting} {others : List Waiting}
    (found : earliest? r.waiting = some (w, others)) (delivered : r.deliver? w others = some next) :
    Continues s next := by
  have ends : (w.call :: others.map Waiting.call).Perm s.waiting :=
    ((perm_earliest? found).map Waiting.call).symm.trans follows.calls
  have present : w.call ∈ s.waiting := ends.subset List.mem_cons_self
  rw [deliver?, follows.view] at delivered
  dsimp only at delivered
  rw [if_neg (by simp [follows.stays])] at delivered
  cases delivered
  have now : Follows { r with clock := w.due, waiting := others } (s.without w.call) :=
    ⟨follows.stays, follows.view, (ends.trans (List.perm_cons_erase present)).cons_inv⟩
  exact (now.absorb _).step (.reply w.call w.reply present)

theorem Follows.runUntil (follows : r.Follows s) {limit : Nat} (ran : r.runUntil? limit = some next) :
    Continues s next := by
  revert ran follows
  fun_induction runUntil? limit r generalizing s with
  | case1 r absent =>
    intro follows ran
    cases ran
    exact follows.continues
  | case2 r w others found due stuck =>
    intro follows ran
    cases ran
  | case3 r w others found due later delivered ih =>
    intro follows ran
    obtain ⟨events, t, run, follows'⟩ := follows.deliver found delivered
    exact (ih follows' ran).after run
  | case4 r w others found notDue =>
    intro follows ran
    cases ran
    exact follows.continues

/-! ## The steps of a script -/

omit [Scalar W] [Scalar N] [Narrowing W N] in
theorem Follows.onView (follows : r.Follows s) (f : View W N → Turn W N) :
    (r.onView f).Follows (s.follow (f s.view)) := by
  rw [Replay.onView, follows.present]
  exact follows.absorb _

omit [Scalar W] [Scalar N] [Narrowing W N] in
/-- What the user picks on the page is offered by the view. -/
theorem Follows.offers (follows : r.Follows s) {pick : Pick} {α : Type} {can : Element Message → Option α}
    {e : Element Message} {a : α} {m : Message} (found : pick.find? can r.shown = some (e, a))
    (tells : ∀ {e}, can e = some a → e.listener.Tells m) (enabled : e.isDisabled = false) :
    s.view.Offers m := by
  obtain ⟨picked, fits, told⟩ := List.mem_filterMap.1 (List.mem_of_getElem? found)
  obtain ⟨found', isCan, same⟩ := Option.map_eq_some_iff.1 told
  cases same
  have member := List.mem_of_mem_filter fits
  rw [shown, if_neg (by simp [follows.stays]), follows.view] at member
  obtain ⟨present, same, offered⟩ := Page.offers_of_show ⟨e, member, enabled, tells isCan⟩
  cases same
  exact offered

theorem tells_of_click {e : Element Message} {m : Message} {prevents : Bool}
    (told : e.click? = some (m, prevents)) : e.listener.Tells m := by
  rw [Element.click?] at told
  cases listener : e.listener <;> simp_all [Listener.Tells]

theorem tells_of_input (text : String) {e : Element Message} {message : String → Message}
    (told : e.input? = some message) : e.listener.Tells (message text) := by
  rw [Element.input?] at told
  cases listener : e.listener <;> simp_all [Listener.Tells]

theorem Follows.frames (follows : r.Follows s) {last painted : List (Stroke W)} {count : Nat}
    (ran : r.frames? last count = some (next, painted)) : Continues s next := by
  induction count generalizing r s last with
  | zero =>
    cases ran
    exact follows.continues
  | succ count ih =>
    obtain ⟨⟨first, strokes⟩, one, rest⟩ := Option.bind_eq_some_iff.1 ran
    rw [frame?] at one
    split at one
    · rw [follows.present] at one
      obtain ⟨⟨v, _⟩, ticked, same⟩ := Option.map_eq_some_iff.1 one
      cases same
      have step : Session.Step s (.frame r.measure) (s.follow v.quiet) := .frame ticked
      have calls : r.calls.Perm (s.follow v.quiet).waiting := by
        simpa [Session.follow, View.quiet] using follows.calls
      have here : Follows { r with view := some v } (s.follow v.quiet) := ⟨follows.stays, rfl, calls⟩
      exact (ih here rest).after (.snoc .nil step)
    · cases one
      exact ih follows rest

theorem Follows.click (follows : r.Follows s) (pick : Pick) : Continues s (r.click pick).1 := by
  rw [Replay.click]
  cases found : pick.find? Element.click? r.shown with
  | none => exact follows.continues
  | some picked =>
    obtain ⟨e, m, prevents⟩ := picked
    cases disabled : e.isDisabled with
    | true => simpa [disabled] using follows.continues
    | false =>
      have offered : s.view.Offers m := follows.offers found tells_of_click disabled
      simpa [disabled] using (follows.onView (·.handle m)).step (.use offered)

theorem Follows.input (follows : r.Follows s) (pick : Pick) (text : String) :
    Continues s (r.input pick text).1 := by
  rw [Replay.input]
  cases found : pick.find? Element.input? r.shown with
  | none => exact follows.continues
  | some picked =>
    obtain ⟨e, message⟩ := picked
    cases disabled : e.isDisabled with
    | true => simpa [disabled] using follows.continues
    | false =>
      have offered : s.view.Offers (message text) := follows.offers found (tells_of_input text) disabled
      simpa [disabled] using (follows.onView (·.handle (message text))).step (.use offered)

theorem Follows.point (follows : r.Follows s) (e : PointerEvent W) : Continues s (r.point e).1 := by
  have same : (r.point e).1 = r.absorb (s.view.point e) := by simp [Replay.point, follows.present]
  rw [same]
  exact (follows.absorb _).step (.point e)

theorem Follows.act (follows : r.Follows s) {a : Act W} {response : Response W} (stays : a ≠ .leave)
    (acted : r.act? a = some (next, response)) : Continues s next := by
  cases a with
  | leave => exact absurd rfl stays
  | click pick =>
    obtain rfl : (r.click pick).1 = next := congrArg Prod.fst (Option.some.inj acted)
    exact follows.click pick
  | input pick text =>
    obtain rfl : (r.input pick text).1 = next := congrArg Prod.fst (Option.some.inj acted)
    exact follows.input pick text
  | point e =>
    obtain rfl : (r.point e).1 = next := congrArg Prod.fst (Option.some.inj acted)
    exact follows.point e
  | wait ms =>
    obtain ⟨later, waited, same⟩ := Option.map_eq_some_iff.1 acted
    cases same
    obtain ⟨last, ran, same⟩ := Option.map_eq_some_iff.1 waited
    cases same
    obtain ⟨events, t, run, follows'⟩ := follows.runUntil ran
    exact ⟨events, t, run, follows'.stays, follows'.view, follows'.calls⟩
  | frames count =>
    obtain ⟨⟨later, strokes⟩, painted, same⟩ := Option.map_eq_some_iff.1 acted
    cases same
    exact follows.frames painted
  | resize room =>
    cases acted
    exact (follows.onView _).step (.resize room)
  | navigate route =>
    cases acted
    exact (follows.onView _).step (.navigate route)

/-- A step of the script is some events of the session. -/
theorem Follows.scripted (follows : r.Follows s) {a : Act W} {response : Response W} (stays : a ≠ .leave)
    (stepped : r.step? a = some (next, response)) : Continues s next := by
  obtain ⟨⟨acted, _⟩, act, rest⟩ := Option.bind_eq_some_iff.1 stepped
  obtain ⟨settled, ran, same⟩ := Option.bind_eq_some_iff.1 rest
  cases same
  have fresh : Follows { r with sent := [], notices := [] } s := ⟨follows.stays, follows.view, follows.calls⟩
  obtain ⟨events, t, run, follows'⟩ := fresh.act stays act
  exact (follows'.runUntil ran).after run

/-- A page with a view comes up as a session does. -/
theorem continues_of_open {page : Page} {access : Access} {config : Config} {route : Option String} {site : Site W}
    {script : Script} {measure : Measure W} (viewed : page.access? = some access)
    (opens : open? page config route site script measure = some r) :
    Continues (.mount config access route site) r := by
  rw [open?, viewed] at opens
  dsimp only at opens
  let t : Turn W N := View.mount config access route site
  let blank : Replay W N := ⟨page, none, false, script, 0, [], false, measure, [], []⟩
  have kept := foldl_start_keeps t.view t.calls { blank with view := some t.view, notices := [] ++ t.notices }
  have calls : (blank.absorb t).calls = t.calls := by
    rw [calls_absorb]
    rfl
  have follows : Follows { blank.absorb t with framePending := site.drawable }
      (.mount config access route site) := ⟨kept.2, kept.1, .of_eq calls⟩
  exact follows.runUntil opens

/-- Whatever a script does with a page, short of leaving it, is a run of a session. -/
theorem continues_of_acts {page : Page} {access : Access} {config : Config} {route : Option String} {site : Site W}
    {script : Script} {measure : Measure W} {acts : List (Act W)} (viewed : page.access? = some access)
    (opens : open? page config route site script measure = some r) (stays : .leave ∉ acts)
    (ran : acts.foldlM (fun r a => (r.step? a).map Prod.fst) r = some next) :
    Continues (.mount config access route site) next := by
  have start := continues_of_open viewed opens
  clear opens
  induction acts generalizing r with
  | nil =>
    cases ran
    exact start
  | cons a acts ih =>
    rw [List.foldlM_cons] at ran
    obtain ⟨later, stepped, rest⟩ := Option.bind_eq_some_iff.1 ran
    obtain ⟨⟨_, response⟩, step, same⟩ := Option.map_eq_some_iff.1 stepped
    cases same
    obtain ⟨stay, stays'⟩ := not_or.1 (mt List.mem_cons.2 stays)
    obtain ⟨events, t, run, follows⟩ := start
    exact ih stays' rest ((follows.scripted (Ne.symm stay) step).after run)

end Replay

end GraphViewer

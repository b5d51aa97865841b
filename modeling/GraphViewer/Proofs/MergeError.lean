import GraphViewer.Proofs.NewestCall
/-
The error in the panel of merge suggestions. Whatever else is shown was read for the collection that is
shown. An answer that fails is the exception: it has no ticket, and its error is shown with whatever
collection is shown by then. So the error belongs to the collection that is shown in exactly those runs in
which no such answer fails late, unless the same error was shown already.
-/

namespace GraphViewer

variable {W N : Type} [Scalar W] [Scalar N] [Narrowing W N]

namespace Session

/-- The event is the end of an answer for the collection, which failed with this error. -/
def GivesError (c : Client) (collection : CollectionId) (e : Event W) (error : Option String) : Prop :=
  ∃ suggestion action reply failure, e = .reply (.action collection suggestion action) reply ∧
    (c.action collection suggestion action reply).1 = .error failure ∧ error = some failure.message

/-- The event is the end of an answer for another collection than the one that is shown. -/
def Strays (s : Session W N) (e : Event W) : Prop :=
  ∃ collection suggestion action reply, e = .reply (.action collection suggestion action) reply ∧
    s.view.scope.shown ≠ some collection

/-- If the event is the end of an answer that failed, then its error is shown already. -/
def Repeats (s : Session W N) (e : Event W) : Prop :=
  ∀ {collection suggestion action reply failure}, e = .reply (.action collection suggestion action) reply →
    (s.view.client.action collection suggestion action reply).1 = .error failure →
    s.view.merge.error = some failure.message

/-- The error stays as it is whenever an answer for another collection ends. -/
def KeepsError (start : Session W N) (events : List (Event W)) : Prop :=
  ∀ {s e next}, Passes start events s e next → Strays s e → next.view.merge.error = s.view.merge.error

/-- The error that is shown, if any, is at any time that of an answer for the collection that is shown. -/
def OwnsError (c : Client) (start : Session W N) (events : List (Event W)) : Prop :=
  ∀ earlier later {s}, events = earlier ++ later → Run start earlier s →
    Sourced (·.merge.error) none (GivesError c) start earlier s

/-- Every answer for another collection that ends on the way is passed on, or fails with the error that is
shown already. -/
def StraysRepeat (start : Session W N) (events : List (Event W)) : Prop :=
  ∀ {s e next}, Passes start events s e next → Strays s e → Repeats s e

variable {s next : Session W N} {e : Event W} {collection : CollectionId} {suggestion : String}
  {action : MergeAction} {reply : Option Reply}

theorem ended_action_error :
    (s.ended (.action collection suggestion action) reply).view.merge.error =
      match (s.view.client.action collection suggestion action reply).1 with
      | .ok _ => s.view.merge.error
      | .error failure => some failure.message := by
  cases result : (s.view.client.action collection suggestion action reply).1 with
  | ok _ =>
    obtain ⟨_, _, _, same⟩ := s.view.refresh_shows
    have view := (View.actionReplied_ok result).1
    rw [same] at view
    exact congrArg (·.merge.error) view
  | error failure => exact congrArg (·.merge.error) (View.actionReplied_error result).1

/-- The end of an answer leaves the error as it is just when it repeats it. -/
theorem action_keeps_iff (step : Step s (.reply (.action collection suggestion action) reply) next) :
    next.view.merge.error = s.view.merge.error ↔
      Repeats s (.reply (.action collection suggestion action) reply) := by
  have same : next = s.ended (.action collection suggestion action) reply := by
    cases step
    rfl
  rw [same, ended_action_error]
  constructor
  · rintro kept _ _ _ _ failure equal failed
    cases equal
    rw [failed] at kept
    exact kept.symm
  · intro repeats
    split
    · rfl
    · rename_i failed
      exact (repeats rfl failed).symm

theorem Effect.error (effect : Effect s e next) :
    (next.view.merge.error = s.view.merge.error ∧
        ∀ collection, s.view.scope.shown = some collection → next.view.scope.shown = some collection) ∨
      next.view.merge.error = none ∨
      ∃ collection, GivesError s.view.client collection e next.view.merge.error ∧
        next.view.scope.shown = s.view.scope.shown := by
  rcases effect.shows with ⟨_, _, error | error, shown⟩ | ⟨_, _, error⟩ | ⟨call, answer, rfl, _, rfl⟩
  · exact .inl ⟨error, shown⟩
  · exact .inr (.inl error)
  · exact .inr (.inl error)
  have shown := s.ended_shown call answer
  cases call with
  | graph collection ticket =>
    refine .inl ⟨?_, shown⟩
    rw [ended_graph]
    split
    · exact congrArg MergeState.error (s.view.settle_keeps _).2.2.2
    · rfl
  | suggestions collection ticket =>
    refine .inl ⟨?_, shown⟩
    rw [ended_suggestions]
    split
    · cases (s.view.client.suggestions collection answer).1 <;> rfl
    · rfl
  | action collection suggestion action =>
    cases result : (s.view.client.action collection suggestion action answer).1 with
    | ok _ =>
      refine .inl ⟨?_, shown⟩
      rw [ended_action_error, result]
    | error failure =>
      refine .inr (.inr ⟨collection, ⟨suggestion, action, answer, failure, rfl, result, ?_⟩, ?_⟩)
      · rw [ended_action_error, result]
      · exact congrArg Scope.shown (s.view.replied_reader _ answer).2.2

/-! ## Whole runs -/

variable {start : Session W N} {events : List (Event W)}

theorem keepsError_iff : KeepsError start events ↔ StraysRepeat start events := by
  have step_iff {s next : Session W N} {e : Event W} (passes : Passes start events s e next)
      (strays : Strays s e) : next.view.merge.error = s.view.merge.error ↔ Repeats s e := by
    obtain ⟨_, _, _, _, step⟩ := passes
    obtain ⟨_, _, _, _, rfl, _⟩ := strays
    exact action_keeps_iff step
  constructor
  · intro kept s e next passes strays
    exact (step_iff passes strays).1 (kept passes strays)
  · intro repeats s e next passes strays
    exact (step_iff passes strays).2 (repeats passes strays)

/-- An answer that fails late and shows a new error breaks it. -/
theorem OwnsError.straysRepeat {c : Client} (owns : OwnsError c start events) : StraysRepeat start events := by
  intro s e next passes strays
  obtain ⟨earlier, later, rfl, run, step⟩ := passes
  obtain ⟨collection, suggestion, action, reply, rfl, elsewhere⟩ := strays
  rw [← action_keeps_iff step]
  -- a new error would be sourced in this very event, so the event would concern what is shown
  by_contra changed
  have same : next = s.ended (.action collection suggestion action) reply := by
    cases step
    rfl
  have present : next.view.merge.error ≠ none := by
    cases result : (s.view.client.action collection suggestion action reply).1 with
    | ok _ => exact absurd (by rw [same, ended_action_error, result]) changed
    | error failure => simp [same, ended_action_error, result]
  have sourced := owns (earlier ++ [.reply (.action collection suggestion action) reply]) later (by simp)
    (run.snoc step)
  obtain ⟨other, ⟨_, _, _, _, equal, _, _⟩, shown⟩ := sourced.of_changed run changed present
  cases equal
  rw [same] at shown
  exact elsewhere ((congrArg Scope.shown (s.view.replied_reader _ _).2.2).symm.trans shown)

/-- Otherwise it is kept by every step. -/
theorem ownsError_of_repeats {config : Config} {access : Access} {route : Option String} {site : Site W}
    (repeats : StraysRepeat (mount (N := N) config access route site) events) :
    OwnsError (.ofConfig config) (mount (N := N) config access route site) events := by
  intro earlier later s equal run
  induction run generalizing later with
  | nil =>
    obtain ⟨_, _, _, _, view⟩ := mount_view (N := N) config access route site
    exact .inl (congrArg (·.merge.error) view)
  | @snoc before s next e run step ih =>
    have split : events = before ++ e :: later := by simpa using equal
    refine (ih _ split).step run step ?_
    rcases step.effect.error with kept | idle | ⟨collection, gives, scope⟩
    · exact .inl kept
    · exact .inr (.inl idle)
    · by_cases shown : s.view.scope.shown = some collection
      · rw [(reader_run run).2] at gives
        exact .inr (.inr ⟨collection, gives, shown, scope.trans shown⟩)
      · obtain ⟨suggestion, action, reply, failure, rfl, failed, error⟩ := gives
        have strays : Strays s (.reply (.action collection suggestion action) reply) :=
          ⟨collection, suggestion, action, reply, rfl, shown⟩
        refine .inl ⟨?_, fun other isShown => scope.trans isShown⟩
        exact (action_keeps_iff step).2 (repeats ⟨before, later, split, run, step⟩ strays)

/-- The error belongs to the collection that is shown, and no answer for another collection touches it, in
exactly those runs in which every answer that ends for another collection was passed on, or failed with the
error that was shown already. -/
theorem error_owned_iff (config : Config) (access : Access) (route : Option String) (site : Site W)
    (events : List (Event W)) :
    (KeepsError (mount (N := N) config access route site) events ↔
      StraysRepeat (mount (N := N) config access route site) events) ∧
    (OwnsError (.ofConfig config) (mount (N := N) config access route site) events ↔
      StraysRepeat (mount (N := N) config access route site) events) :=
  ⟨keepsError_iff, OwnsError.straysRepeat, ownsError_of_repeats⟩

/-- A reply with one suggestion, for closed runs. -/
def oneSuggestion : Option Reply :=
  some (.response 200 "\x7b\"suggestions\":[\x7b\"id\":\"s1\"\x7d]\x7d")

/-- The owner accepts a suggestion for the first collection and goes on to the second one, and then the
answer runs into the timeout: its error is shown with the second collection. -/
theorem error_strays : ∃ (s next : Session Float Float32) (e : Event Float),
    let start := mount {} .owned (some "A") ⟨none, ⟨0, 0⟩, false⟩
    let events := [.reply (.suggestions collectionA ⟨1⟩) oneSuggestion, .use .openMerges,
      .use (.answer "s1" .accept), .navigate (some "B")]
    Run start events s ∧ Step s e next ∧ Strays s e ∧ s.view.merge.error = none ∧
      next.view.scope.shown = some collectionB ∧
      next.view.merge.error = some "request timed out after 20000ms" ∧
      ¬ Sourced (·.merge.error) none (GivesError (.ofConfig {})) start (events ++ [e]) next := by
  let start : Session Float Float32 := mount {} .owned (some "A") ⟨none, ⟨0, 0⟩, false⟩
  have fails {events} {s : Session Float Float32} (_ : Run start events s)
      (waiting : .action collectionA "s1" .accept ∈ s.waiting) :
      Step s (.reply (.action collectionA "s1" .accept) none)
        (s.ended (.action collectionA "s1" .accept) none) :=
    .reply _ none waiting
  have nothing : Run start [] start := .nil
  have suggested := nothing.snoc (.reply (.suggestions collectionA ⟨1⟩) oneSuggestion (by decide +kernel))
  have opened := suggested.snoc (.use (m := .openMerges) (by decide +kernel))
  have answered := opened.snoc (.use (m := .answer "s1" .accept) (by decide +kernel))
  have moved := answered.snoc (.navigate (some "B"))
  have failed := fails moved (by decide +kernel)
  refine ⟨_, _, _, moved, failed, ⟨_, _, _, _, rfl, by decide +kernel⟩, by decide +kernel, by decide +kernel,
    by decide +kernel, ?_⟩
  intro sourced
  obtain ⟨collection, ⟨_, _, _, _, equal, _, _⟩, shown⟩ :=
    sourced.of_changed moved (by decide +kernel) (by decide +kernel)
  cases equal
  exact absurd shown (by decide +kernel)

end Session

end GraphViewer

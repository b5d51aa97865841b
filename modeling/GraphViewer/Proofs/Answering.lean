import GraphViewer.Proofs.MergeError
/-
Answers to merge suggestions, one at a time. While one is under way the view is busy and offers no other, so
there is never a second one, whatever else goes on. One that was passed on has everything read anew, for the
collection that is shown then, and overtakes all that is being read; one that failed touches nothing but the
panel.
-/

namespace GraphViewer

variable {W N : Type}

/-- The call passes an answer to a suggestion on. -/
def Call.isAnswer : Call → Bool
  | .action _ _ _ => true
  | .graph _ _ | .suggestions _ _ => false

theorem Call.reads_iff {call : Call} : call.Reads ↔ call.isAnswer = false := by
  cases call <;> simp [Reads, isAnswer]

/-- The tickets taken so far do not go with a later one. -/
theorem Numbered.not_current_next {reads : List (CollectionId × Ticket)} {t : Tickets}
    (numbered : Numbered reads t) {read : CollectionId × Ticket} (taken : read ∈ reads) :
    ¬ t.next.1.isCurrent read.2 = true := by
  have inRange : read.2.number ∈ List.range' 1 t.taken := by
    rw [← numbered]
    exact List.mem_map_of_mem taken
  have below := (List.mem_range'_1.1 inRange).2
  simp only [Tickets.next, Tickets.isCurrent, beq_iff_eq]
  omega

namespace View

variable {v : View W N} {collection : CollectionId}

/-- The reply to the call would not come too late. -/
def Heeds (v : View W N) : Call → Prop
  | .graph _ ticket => v.graphTickets.isCurrent ticket = true
  | .suggestions _ ticket => v.suggestionTickets.isCurrent ticket = true
  | .action _ _ _ => True

/-- Reading anew passes no answers on. -/
theorem refresh_answers (v : View W N) : v.refresh.2.countP Call.isAnswer = 0 := by
  cases wanted : v.collection? with
  | none =>
    rw [refresh_of_none wanted]
    rfl
  | some collection =>
    cases owner : v.access.isOwner with
    | false =>
      rw [refresh_of_reader wanted owner]
      rfl
    | true =>
      rw [refresh_of_owner wanted owner]
      rfl

/-- The end of an answer passes no other on. -/
theorem actionReplied_answers (v : View W N) (collection : CollectionId) (suggestion : String)
    (action : MergeAction) (answer : Option Reply) :
    (v.actionReplied collection suggestion action answer).calls.countP Call.isAnswer = 0 := by
  cases result : (v.client.action collection suggestion action answer).1 with
  | ok _ =>
    rw [(actionReplied_ok result).2]
    exact v.refresh_answers
  | error failure =>
    rw [(actionReplied_error result).2]
    rfl

theorem refresh_busy (v : View W N) : v.refresh.1.merge.busy = v.merge.busy := by
  obtain ⟨_, _, _, same⟩ := v.refresh_shows
  rw [same]

/-- Another collection does not end an answer that is under way. -/
theorem arrived_busy (v : View W N) : v.arrived.merge.busy = v.merge.busy := by
  rcases v.arrived_cases with ⟨same, _⟩ | same
  · rw [same]
  · rw [same]
    rfl

variable [Scalar W] [Scalar N] [Narrowing W N]

theorem takes_busy {call : Call} (reads : call.Reads) (answer : Option Reply) :
    (v.takes (call, answer)).merge.busy = v.merge.busy := by
  cases call with
  | graph collection ticket =>
    rw [takes_graph]
    split
    · exact congrArg MergeState.busy (v.settle_keeps _).2.2.2
    · rfl
  | suggestions collection ticket =>
    rw [takes_suggestions]
    split
    · cases (v.client.suggestions collection answer).1 <;> rfl
    · rfl
  | action collection suggestion action => exact reads.elim

end View

namespace Session

variable {s next : Session W N} {e : Event W} {config : Config} {access : Access} {route : Option String}
  {site : Site W} {events : List (Event W)}

/-! ## One at a time -/

/-- One answer is under way while the view is busy, and none otherwise. -/
def Paced (s : Session W N) : Prop :=
  s.waiting.countP Call.isAnswer = s.view.merge.busy.toNat

theorem paced_refreshed (paced : Paced s) : Paced s.refreshed := by
  show (s.waiting ++ s.view.refresh.2).countP Call.isAnswer = s.view.refresh.1.merge.busy.toNat
  rw [List.countP_append, View.refresh_answers, View.refresh_busy, Nat.add_zero]
  exact paced

theorem paced_entered (paced : Paced s) (route : Option String) : Paced (s.entered route) := by
  let routed : View W N := { s.view with route := route }
  have arrived : Paced { s with view := routed.arrived } :=
    paced.trans (congrArg Bool.toNat routed.arrived_busy).symm
  exact paced_refreshed arrived

/-- An answer can only be given while none is under way. -/
theorem paced_answers {suggestion : String} {action : MergeAction} (paced : Paced s)
    (offered : s.view.Offers (.answer suggestion action)) :
    Paced (s.follow (s.view.answer suggestion action)) := by
  obtain ⟨idle, _⟩ := View.offers_iff.1 offered
  rw [Paced, idle] at paced
  unfold View.answer
  split
  · rw [View.quiet, follow_of_calls _ rfl, Paced, idle]
    exact paced
  · rename_i collection _
    show (s.waiting ++ [Call.action collection suggestion action]).countP Call.isAnswer = 1
    rw [List.countP_append, paced]
    rfl

theorem countP_without {call : Call} (waiting : call ∈ s.waiting) :
    s.waiting.countP Call.isAnswer =
      (s.without call).waiting.countP Call.isAnswer + if call.isAnswer = true then 1 else 0 := by
  rw [(List.perm_cons_erase waiting).countP_eq, List.countP_cons]
  rfl

variable [Scalar W] [Scalar N] [Narrowing W N]

theorem paced_ended {call : Call} (paced : Paced s) (waiting : call ∈ s.waiting) (answer : Option Reply) :
    Paced (s.ended call answer) := by
  have left := countP_without waiting
  rw [Paced] at paced
  cases isAnswer : call.isAnswer with
  | false =>
    have reads := Call.reads_iff.2 isAnswer
    rw [ended_of_reads s reads, Paced, View.takes_busy reads, ← paced, left, isAnswer]
    rfl
  | true =>
    cases call with
    | graph collection ticket => cases isAnswer
    | suggestions collection ticket => cases isAnswer
    | action collection suggestion action =>
      -- the answer that ends was the only one
      have none : (s.without (Call.action collection suggestion action)).waiting.countP
          Call.isAnswer = 0 := by
        have atMost := s.view.merge.busy.toNat_le
        rw [isAnswer, if_pos rfl] at left
        omega
      have idle : (s.ended (Call.action collection suggestion action) answer).view.merge.busy = false := by
        obtain ⟨_, _, _, _, view⟩ := s.ended_action collection suggestion action answer
        rw [view]
      rw [Paced, idle, ended, follow, View.replied, List.countP_append, none, View.actionReplied_answers]
      rfl

theorem Effect.paced (effect : Effect s e next) (paced : Paced s) : Paced next := by
  cases effect with
  | glances glance => exact paced.trans (congrArg Bool.toNat glance.looks.busy).symm
  | refreshes => exact paced_refreshed paced
  | answers offered => exact paced_answers paced offered
  | enters _ => exact paced_entered paced _
  | ends answer waiting => exact paced_ended paced waiting answer

theorem paced_run (run : Run (mount config access route site) events s) : Paced s := by
  refine run.keeps Paced ?_ fun paced step => step.effect.paced paced
  exact paced_entered (s := ⟨View.blank config access route site, [], []⟩) rfl route

/-! ## What comes of an answer -/

/-- Everything was read anew for the collection, which is the one that is shown. -/
structure Rereads (s next : Session W N) (collection : CollectionId) : Prop where
  shown : next.view.scope.shown = some collection
  /-- There is one new call for the graph, and for an owner one for the suggestions. -/
  issued : ∃ graph suggestions, next.issued = s.issued ++ .graph collection graph ::
    if s.view.access.isOwner then [.suggestions collection suggestions] else []
  /-- All that was being read comes too late now. -/
  stale : ∀ call ∈ s.waiting, call.Reads → ¬ next.view.Heeds call

/-- Only the panel of merge suggestions has changed, and no call was made. -/
structure Undisturbed (s next : Session W N) (failure : Failure) : Prop where
  issued : next.issued = s.issued
  view : next.view =
    { s.view with merge := { s.view.merge with busy := false, error := some failure.message } }
  /-- Whatever was being read counts as before. -/
  heeds : ∀ call, next.view.Heeds call ↔ s.view.Heeds call

omit [Scalar W] [Scalar N] [Narrowing W N] in
theorem refreshed_issued {collection : CollectionId} (wanted : s.view.collection? = some collection) :
    s.refreshed.issued = s.issued ++ .graph collection s.view.graphTickets.next.2 ::
      if s.view.access.isOwner then [.suggestions collection s.view.suggestionTickets.next.2] else [] := by
  cases owner : s.view.access.isOwner with
  | false =>
    rw [Session.refreshed, View.refresh_of_reader wanted owner]
    rfl
  | true =>
    rw [Session.refreshed, View.refresh_of_owner wanted owner]
    rfl

omit [Scalar W] [Scalar N] [Narrowing W N] in
theorem not_heeds_refreshed (ticketed : Ticketed s) {collection : CollectionId}
    (wanted : s.view.collection? = some collection) {call : Call} (waiting : call ∈ s.waiting)
    (reads : call.Reads) : ¬ s.refreshed.view.Heeds call := by
  cases call with
  | graph c ticket =>
    show ¬ s.refreshed.view.graphTickets.isCurrent ticket = true
    rw [(refreshed_graph wanted).2.1]
    exact ticketed.graph.not_current_next (graphRead_of_waiting ticketed waiting)
  | suggestions c ticket =>
    have read := suggestionsRead_of_waiting ticketed waiting
    have tickets := refreshed_suggestions wanted
    split at tickets
    · show ¬ s.refreshed.view.suggestionTickets.isCurrent ticket = true
      rw [tickets.2]
      exact ticketed.suggestions.not_current_next read
    · -- a reader has never asked for suggestions
      rename_i reader
      rw [ticketed.reader (by simpa using reader)] at read
      cases read
  | action c suggestion action => exact reads.elim

/-- Answers to merge suggestions in a session. -/
structure OneAnswer (s : Session W N) : Prop where
  /-- At most one answer is under way, -/
  single : s.waiting.countP Call.isAnswer ≤ 1
  /-- and the view is busy exactly while one is. -/
  busy : s.view.merge.busy = true ↔ ∃ call ∈ s.waiting, call.isAnswer = true
  /-- When one was passed on, the collection in the route is read anew. -/
  applied : ∀ {collection suggestion action reply next here},
    Step s (.reply (.action collection suggestion action) reply) next →
    (s.view.client.action collection suggestion action reply).1 = .ok () →
    s.view.collection? = some here → Rereads s next here
  /-- When one failed, only the panel tells of it. -/
  failed : ∀ {collection suggestion action reply next failure},
    Step s (.reply (.action collection suggestion action) reply) next →
    (s.view.client.action collection suggestion action reply).1 = .error failure → Undisturbed s next failure

theorem rereads_applied (tidy : Tidy s) {collection here : CollectionId} {suggestion : String}
    {action : MergeAction} {reply : Option Reply}
    (step : Step s (.reply (.action collection suggestion action) reply) next)
    (passed : (s.view.client.action collection suggestion action reply).1 = .ok ())
    (wanted : s.view.collection? = some here) : Rereads s next here := by
  obtain ⟨view, calls⟩ := View.actionReplied_ok passed
  have same : next = s.ended (.action collection suggestion action) reply := by
    cases step
    rfl
  have read : next.view =
      { s.refreshed.view with merge := { s.refreshed.view.merge with busy := false } } := by
    rw [same]
    exact view
  have issued : next.issued = s.refreshed.issued := by
    rw [same]
    exact congrArg (s.issued ++ ·) calls
  refine ⟨?_, ⟨_, _, issued.trans (refreshed_issued wanted)⟩, ?_⟩
  · rw [same]
    exact s.ended_shown _ _ _ (tidy.wanted wanted)
  · intro call waiting reads heeds
    rw [read] at heeds
    refine not_heeds_refreshed tidy.toTicketed wanted waiting reads ?_
    cases call <;> exact heeds

theorem undisturbed_failed {collection : CollectionId} {suggestion : String} {action : MergeAction}
    {reply : Option Reply} {failure : Failure}
    (step : Step s (.reply (.action collection suggestion action) reply) next)
    (failed : (s.view.client.action collection suggestion action reply).1 = .error failure) :
    Undisturbed s next failure := by
  obtain ⟨view, calls⟩ := View.actionReplied_error failed
  have same : next = s.ended (.action collection suggestion action) reply := by
    cases step
    rfl
  have kept : next.view =
      { s.view with merge := { s.view.merge with busy := false, error := some failure.message } } := by
    rw [same]
    exact view
  refine ⟨?_, kept, ?_⟩
  · rw [same]
    exact (congrArg (s.issued ++ ·) calls).trans (List.append_nil _)
  · intro call
    rw [kept]
    cases call <;> exact Iff.rfl

/-- In every run answers are passed on one at a time; the end of one has everything read anew, or changes
nothing but the panel. -/
theorem one_answer (run : Run (mount config access route site) events s) : OneAnswer s where
  single := by
    have paced : s.waiting.countP Call.isAnswer = s.view.merge.busy.toNat := paced_run run
    rw [paced]
    exact s.view.merge.busy.toNat_le
  busy := by
    have paced : s.waiting.countP Call.isAnswer = s.view.merge.busy.toNat := paced_run run
    rw [← List.countP_pos_iff, paced]
    cases s.view.merge.busy <;> simp
  applied step passed wanted := rereads_applied (tidy_run run) step passed wanted
  failed step failed := undisturbed_failed step failed

/-- The owner accepts a suggestion and asks for everything anew before the answer ends. -/
theorem one_answer_given : ∃ s : Session Float Float32,
    OneAnswer s ∧ s.view.merge.busy = true ∧ s.view.loading = true ∧
      s.waiting.countP Call.isAnswer = 1 := by
  let start : Session Float Float32 := mount {} .owned (some "A") ⟨none, ⟨0, 0⟩, false⟩
  have nothing : Run start [] start := .nil
  have suggested := nothing.snoc (.reply (.suggestions collectionA ⟨1⟩) oneSuggestion (by decide +kernel))
  have opened := suggested.snoc (.use (m := .openMerges) (by decide +kernel))
  have given := opened.snoc (.use (m := .answer "s1" .accept) (by decide +kernel))
  have asked := given.snoc (.use (m := .refresh) (by decide +kernel))
  exact ⟨_, one_answer asked, by decide +kernel, by decide +kernel, by decide +kernel⟩

end Session

end GraphViewer

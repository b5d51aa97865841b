import Mathlib.Data.List.Pairwise
import GraphViewer.Proofs.Reading
/-
What is shown depends on the newest call of its kind alone. A reply that has been overtaken changes nothing,
the view is loading while the newest call for a graph is under way, what is shown was read for the collection
that is shown, and replies that come with nothing in between may change places.
-/

namespace GraphViewer

variable {W N : Type} [Scalar W] [Scalar N] [Narrowing W N]

/-! ## Replies in any order -/

/-- How a call ends. -/
abbrev Ending := Call × Option Reply

/-- The call only reads. -/
def Call.Reads : Call → Prop
  | .graph _ _ | .suggestions _ _ => True
  | .action _ _ _ => False

/-- The calls do not have the same ticket of one kind. -/
def Call.Apart : Call → Call → Prop
  | .graph _ a, .graph _ b => a.number ≠ b.number
  | .suggestions _ a, .suggestions _ b => a.number ≠ b.number
  | _, _ => True

theorem Tickets.not_both_current {t : Tickets} {a b : Ticket} (apart : a.number ≠ b.number)
    (current : t.isCurrent a = true) : t.isCurrent b = false := by
  rw [isCurrent, beq_iff_eq] at current
  rw [isCurrent, beq_eq_false_iff_ne, current]
  exact apart

namespace View

variable {v : View W N}

/-- The view after a call has ended. -/
def takes (v : View W N) (ending : Ending) : View W N :=
  (v.replied ending.1 ending.2).view

theorem settle_suggested (v : View W N) (graph : Except Failure Loaded)
    (found : Except Failure Suggestions) :
    (v.settle graph).suggested found = (v.suggested found).settle graph := by
  cases found with
  | error _ => rfl
  | ok found =>
    cases graph with
    | error failure => rfl
    | ok loaded =>
      simp only [settle, suggested, adopt]
      obtain ⟨interaction, aim⟩ := v.interaction.adopt loaded.snapshot loaded.groups
      cases aim with
      | none => rfl
      | some aim => rfl

variable {c d : CollectionId} {one other : Ticket} {a b : Option Reply}

theorem takes_graph : v.takes (.graph c one, a) =
    if v.graphTickets.isCurrent one then v.settle (v.client.graph c v.access a).1 else v :=
  graphReplied_view

theorem takes_suggestions : v.takes (.suggestions c one, a) =
    if v.suggestionTickets.isCurrent one then v.suggested (v.client.suggestions c a).1 else v :=
  suggestionsReplied_view

/-- What is taken in leaves the tickets and the reader as they are. -/
theorem settle_tickets (result : Except Failure Loaded) :
    (v.settle result).graphTickets = v.graphTickets ∧
      (v.settle result).suggestionTickets = v.suggestionTickets ∧ (v.settle result).client = v.client :=
  have books := (v.settle_keeps result).1
  ⟨books.graphTickets, books.suggestionTickets, books.client⟩

theorem takes_graphs_comm (apart : one.number ≠ other.number) :
    (v.takes (.graph c one, a)).takes (.graph d other, b) =
      (v.takes (.graph d other, b)).takes (.graph c one, a) := by
  cases current : v.graphTickets.isCurrent one with
  | true =>
    have stale := Tickets.not_both_current apart current
    simp [takes_graph, settle_tickets, current, stale]
  | false =>
    cases current' : v.graphTickets.isCurrent other with
    | true => simp [takes_graph, settle_tickets, current, current']
    | false => simp [takes_graph, current, current']

theorem takes_suggestions_comm (apart : one.number ≠ other.number) :
    (v.takes (.suggestions c one, a)).takes (.suggestions d other, b) =
      (v.takes (.suggestions d other, b)).takes (.suggestions c one, a) := by
  have kept (found : Except Failure Suggestions) :
      (v.suggested found).suggestionTickets = v.suggestionTickets :=
    (v.suggested_books found).suggestionTickets
  cases current : v.suggestionTickets.isCurrent one with
  | true =>
    have stale := Tickets.not_both_current apart current
    simp [takes_suggestions, kept, current, stale]
  | false =>
    cases current' : v.suggestionTickets.isCurrent other with
    | true => simp [takes_suggestions, kept, current, current']
    | false => simp [takes_suggestions, current, current']

theorem takes_both_comm :
    (v.takes (.graph c one, a)).takes (.suggestions d other, b) =
      (v.takes (.suggestions d other, b)).takes (.graph c one, a) := by
  have books (found : Except Failure Suggestions) := v.suggested_books found
  cases current' : v.suggestionTickets.isCurrent other with
  | false =>
    cases current : v.graphTickets.isCurrent one with
    | false => simp [takes_graph, takes_suggestions, current, current']
    | true => simp [takes_graph, takes_suggestions, settle_tickets, current, current']
  | true =>
    have same (found : Except Failure Suggestions) : (v.suggested found).graphTickets = v.graphTickets ∧
        (v.suggested found).client = v.client ∧ (v.suggested found).access = v.access :=
      ⟨(books found).graphTickets, (books found).client, (books found).access⟩
    cases current : v.graphTickets.isCurrent one with
    | false => simp [takes_graph, takes_suggestions, same, current, current']
    | true => simp [takes_graph, takes_suggestions, settle_tickets, settle_suggested, same, current, current']

/-- Two calls that read and do not share a ticket may end in either order. -/
theorem takes_comm (v : View W N) {one other : Ending} (reads : one.1.Reads) (reads' : other.1.Reads)
    (apart : one.1.Apart other.1) : (v.takes one).takes other = (v.takes other).takes one := by
  obtain ⟨call, a⟩ := one
  obtain ⟨call', b⟩ := other
  cases call with
  | action _ _ _ => exact reads.elim
  | graph c t =>
    cases call' with
    | action _ _ _ => exact reads'.elim
    | graph d u => exact takes_graphs_comm apart
    | suggestions d u => exact takes_both_comm
  | suggestions c t =>
    cases call' with
    | action _ _ _ => exact reads'.elim
    | graph d u => exact takes_both_comm.symm
    | suggestions d u => exact takes_suggestions_comm apart

theorem replied_calls (v : View W N) {call : Call} (reads : call.Reads) (answer : Option Reply) :
    (v.replied call answer).calls = [] := by
  cases call with
  | graph c t => exact graphReplied_calls
  | suggestions c t => exact suggestionsReplied_calls
  | action _ _ _ => exact reads.elim

end View

namespace Session

variable {s a b next : Session W N} {endings : List Ending}

/-- Calls that read end, one after the other. -/
def endEvents (endings : List Ending) : List (Event W) :=
  endings.map fun ending => .reply ending.1 ending.2

theorem ended_of_reads (s : Session W N) {call : Call} (reads : call.Reads) (answer : Option Reply) :
    s.ended call answer = { s.without call with view := s.view.takes (call, answer) } :=
  follow_of_calls _ (View.replied_calls _ reads answer)

/-- Any calls under way may end, in any order. -/
theorem exists_run_of_perm (reads : ∀ ending ∈ endings, ending.1.Reads) {rest : List Call}
    (waiting : (endings.map Prod.fst ++ rest).Perm s.waiting) :
    ∃ t, Run s (endEvents endings) t ∧ t.view = endings.foldl View.takes s.view := by
  induction endings generalizing s with
  | nil => exact ⟨s, .nil, rfl⟩
  | cons ending endings ih =>
    have first : ending.1.Reads := reads ending List.mem_cons_self
    have present : ending.1 ∈ s.waiting := waiting.subset List.mem_cons_self
    have step : Step s (.reply ending.1 ending.2) (s.ended ending.1 ending.2) := .reply _ _ present
    have left : (endings.map Prod.fst ++ rest).Perm (s.ended ending.1 ending.2).waiting := by
      rw [ended_of_reads s first]
      exact List.Perm.cons_inv (waiting.trans (List.perm_cons_erase present))
    obtain ⟨t, run, view⟩ := ih (fun later member => reads later (List.mem_cons_of_mem _ member)) left
    refine ⟨t, .cons step run, view.trans ?_⟩
    rw [ended_of_reads s first]
    rfl

/-- Calls that ended were under way, each of them once. -/
theorem perm_of_run (reads : ∀ ending ∈ endings, ending.1.Reads) (run : Run s (endEvents endings) a) :
    (endings.map Prod.fst ++ a.waiting).Perm s.waiting := by
  induction endings generalizing s with
  | nil =>
    cases run.unique .nil
    exact .refl _
  | cons ending endings ih =>
    obtain ⟨between, step, rest⟩ := run.uncons
    cases step with
    | reply _ _ present =>
      have first : ending.1.Reads := reads ending List.mem_cons_self
      have later := ih (fun later member => reads later (List.mem_cons_of_mem _ member)) rest
      have same : (s.without ending.1).follow (s.view.replied ending.1 ending.2) =
          s.ended ending.1 ending.2 := rfl
      rw [same, ended_of_reads s first] at later
      exact (later.cons ending.1).trans (List.perm_cons_erase present).symm

theorem Apart.symm {one other : Call} (apart : one.Apart other) : other.Apart one := by
  cases one <;> cases other <;> first | exact Ne.symm apart | trivial

omit [Scalar W] [Scalar N] [Narrowing W N] in
/-- No two calls have the same ticket of one kind. -/
theorem Ticketed.apart (h : Ticketed s) : s.issued.Pairwise Call.Apart := by
  have graphs := h.graph.nodup
  have suggestions := h.suggestions.nodup
  rw [List.Nodup, graphReads, List.pairwise_map, List.pairwise_filterMap] at graphs
  rw [List.Nodup, suggestionReads, List.pairwise_map, List.pairwise_filterMap] at suggestions
  refine (graphs.and suggestions).imp fun {one other} both => ?_
  cases one <;> cases other <;> try trivial
  · exact both.1 _ rfl _ rfl
  · exact both.2 _ rfl _ rfl

omit [Scalar W] [Scalar N] [Narrowing W N] in
theorem endings_apart (h : Ticketed s) {rest : List Call}
    (waiting : (endings.map Prod.fst ++ rest).Perm s.waiting) :
    endings.Pairwise fun one other => one.1.Apart other.1 := by
  have calls : (endings.map Prod.fst ++ rest).Pairwise Call.Apart :=
    (waiting.pairwise_iff fun {_ _} => Apart.symm).2 (h.apart.sublist h.waiting)
  exact List.pairwise_map.1 (calls.sublist (List.sublist_append_left _ _))

/-- Replies that come with nothing in between may change places. -/
theorem reorder (h : Ticketed s) {others : List Ending} (reads : ∀ ending ∈ endings, ending.1.Reads)
    (order : endings.Perm others) (run : Run s (endEvents endings) a) :
    ∃ b, Run s (endEvents others) b ∧ b.view = a.view := by
  have waiting := perm_of_run reads run
  have apart := endings_apart h waiting
  obtain ⟨same, run', view⟩ := exists_run_of_perm reads waiting
  cases run.unique run'
  have moved : (others.map Prod.fst ++ a.waiting).Perm s.waiting :=
    ((order.map Prod.fst).append_right a.waiting).symm.trans waiting
  obtain ⟨b, other, view'⟩ :=
    exists_run_of_perm (fun ending member => reads ending (order.symm.subset member)) moved
  refine ⟨b, other, view'.trans (Eq.trans ?_ view.symm)⟩
  have symmetric : Std.Symm fun one other : Ending => one.1.Apart other.1 := ⟨fun _ _ => Apart.symm⟩
  refine (order.foldl_eq' ?_ s.view).symm
  intro one member other member' v
  -- no call is under way twice, so only an ending compared with itself shares its ticket
  by_cases equal : one = other
  · rw [equal]
  · exact v.takes_comm (reads one member) (reads other member')
      (apart.forall member member' equal)

/-! ## Where it comes from -/

/-- The event is a reply to a call for the graph of the collection, and leads to the outcome. -/
def GivesOutcome (c : Client) (access : Access) (collection : CollectionId) (e : Event W)
    (outcome : Outcome) : Prop :=
  ∃ ticket answer, e = .reply (.graph collection ticket) answer ∧ outcome = c.outcome collection access answer

/-- The event is a reply to a call for the merge suggestions of the collection, and brings these. -/
def GivesSuggestions (c : Client) (collection : CollectionId) (e : Event W)
    (suggestions : Option Suggestions) : Prop :=
  ∃ ticket answer found, e = .reply (.suggestions collection ticket) answer ∧
    (c.suggestions collection answer).1 = .ok found ∧ suggestions = some found

variable {e : Event W} {collection : CollectionId} {ticket : Ticket}

omit [Scalar W] [Scalar N] [Narrowing W N] in
theorem graph_current_iff (h : Ticketed s) (waiting : .graph collection ticket ∈ s.waiting) :
    s.view.graphTickets.isCurrent ticket = true ↔ s.newestGraph? = some (collection, ticket) :=
  h.graph.isCurrent_iff (graphRead_of_waiting h waiting)

omit [Scalar W] [Scalar N] [Narrowing W N] in
theorem suggestions_current_iff (h : Ticketed s) (waiting : .suggestions collection ticket ∈ s.waiting) :
    s.view.suggestionTickets.isCurrent ticket = true ↔ s.newestSuggestions? = some (collection, ticket) :=
  h.suggestions.isCurrent_iff (suggestionsRead_of_waiting h waiting)

theorem Effect.outcome (tidy : Tidy s) (effect : Effect s e next) :
    (next.view.outcome = s.view.outcome ∧ ∀ collection, s.view.scope.shown = some collection →
        next.view.scope.shown = some collection) ∨
      next.view.outcome = .pending ∨
      ∃ collection, GivesOutcome s.view.client s.view.access collection e next.view.outcome ∧
        s.view.scope.shown = some collection ∧ next.view.scope.shown = some collection := by
  rcases effect.shows with ⟨outcome, _, _, shown⟩ | ⟨outcome, _, _⟩ | ⟨call, answer, rfl, waiting, rfl⟩
  · exact .inl ⟨outcome, shown⟩
  · exact .inr (.inl outcome)
  have shown := s.ended_shown call answer
  cases call with
  | graph collection ticket =>
    have view := s.ended_graph collection ticket answer
    split at view
    · rename_i current
      have newest := tidy.graphShown ((graph_current_iff tidy.toTicketed waiting).1 current)
      refine .inr (.inr ⟨collection, ⟨ticket, answer, rfl, ?_⟩, newest, shown _ newest⟩)
      rw [view]
      exact (s.view.settle_keeps _).2.2.1
    · exact .inl ⟨congrArg View.outcome view, shown⟩
  | suggestions collection ticket =>
    refine .inl ⟨?_, shown⟩
    rw [ended_suggestions]
    split
    · cases (s.view.client.suggestions collection answer).1 <;> rfl
    · rfl
  | action collection suggestion action =>
    obtain ⟨_, _, _, _, view⟩ := s.ended_action collection suggestion action answer
    refine .inl ⟨?_, shown⟩
    rw [view]

theorem Effect.suggestions (tidy : Tidy s) (effect : Effect s e next) :
    (next.view.merge.suggestions = s.view.merge.suggestions ∧
        ∀ collection, s.view.scope.shown = some collection → next.view.scope.shown = some collection) ∨
      next.view.merge.suggestions = none ∨
      ∃ collection, GivesSuggestions s.view.client collection e next.view.merge.suggestions ∧
        s.view.scope.shown = some collection ∧ next.view.scope.shown = some collection := by
  rcases effect.shows with ⟨_, suggestions, _, shown⟩ | ⟨_, suggestions, _⟩ |
    ⟨call, answer, rfl, waiting, rfl⟩
  · exact .inl ⟨suggestions, shown⟩
  · exact .inr (.inl suggestions)
  have shown := s.ended_shown call answer
  cases call with
  | suggestions collection ticket =>
    have view := s.ended_suggestions collection ticket answer
    split at view
    · rename_i current
      have newest := tidy.suggestionsShown ((suggestions_current_iff tidy.toTicketed waiting).1 current)
      cases result : (s.view.client.suggestions collection answer).1 with
      | ok found =>
        rw [result] at view
        refine .inr (.inr ⟨collection, ⟨ticket, answer, found, rfl, result, ?_⟩, newest, shown _ newest⟩)
        exact congrArg (·.merge.suggestions) view
      | error failure =>
        rw [result] at view
        exact .inl ⟨congrArg (·.merge.suggestions) view, shown⟩
    · exact .inl ⟨congrArg (·.merge.suggestions) view, shown⟩
  | graph collection ticket =>
    refine .inl ⟨?_, shown⟩
    rw [ended_graph]
    split
    · exact congrArg MergeState.suggestions (s.view.settle_keeps _).2.2.2
    · rfl
  | action collection suggestion action =>
    obtain ⟨_, _, _, _, view⟩ := s.ended_action collection suggestion action answer
    exact .inl ⟨congrArg (·.merge.suggestions) view, shown⟩

/-! ## The newest call decides -/

/-- What holds of every session that has come up with a reader and a route, after any events. -/
structure NewestDecides (config : Config) (access : Access) (route : Option String) (site : Site W)
    (events : List (Event W)) (s : Session W N) : Prop where
  /-- A reply to a call for a graph changes nothing at all unless that call is the newest one. -/
  graph : ∀ {collection ticket answer next}, Step s (.reply (.graph collection ticket) answer) next →
    s.newestGraph? ≠ some (collection, ticket) → next.view = s.view
  /-- Likewise for the suggestions. -/
  suggestions : ∀ {collection ticket answer next},
    Step s (.reply (.suggestions collection ticket) answer) next →
    s.newestSuggestions? ≠ some (collection, ticket) → next.view = s.view
  /-- The view is loading exactly while the newest call for a graph is under way. -/
  loading : s.view.loading = true ↔
    ∃ collection ticket, s.newestGraph? = some (collection, ticket) ∧ .graph collection ticket ∈ s.waiting
  /-- A graph or a failure that is shown came from a call for the collection that is shown. -/
  outcome : Sourced View.outcome .pending (GivesOutcome (.ofConfig config) access)
    (mount config access route site) events s
  /-- So did the suggestions. -/
  merges : Sourced (·.merge.suggestions) none (GivesSuggestions (.ofConfig config))
    (mount config access route site) events s
  /-- Calls that read and end with nothing in between may end in any order. -/
  order : ∀ {endings others : List Ending} {a}, (∀ ending ∈ endings, ending.1.Reads) →
    endings.Perm others → Run s (endEvents endings) a → ∃ b, Run s (endEvents others) b ∧ b.view = a.view

variable {config : Config} {access : Access} {route : Option String} {site : Site W}
  {events : List (Event W)}

theorem reader_run (run : Run (mount config access route site) events s) :
    s.view.access = access ∧ s.view.client = .ofConfig config := by
  induction run with
  | nil =>
    obtain ⟨_, _, _, _, view⟩ := mount_view (N := N) config access route site
    rw [view]
    exact ⟨rfl, rfl⟩
  | snoc _ step ih =>
    obtain ⟨access', client'⟩ := step.effect.reader
    exact ⟨access'.trans ih.1, client'.trans ih.2⟩

theorem sourced_outcome (run : Run (mount config access route site) events s) :
    Sourced View.outcome .pending (GivesOutcome (.ofConfig config) access)
      (mount config access route site) events s := by
  induction run with
  | nil =>
    obtain ⟨_, _, _, _, view⟩ := mount_view (N := N) config access route site
    exact .inl (congrArg View.outcome view)
  | snoc earlier step ih =>
    obtain ⟨reader, client⟩ := reader_run earlier
    refine ih.step earlier step ?_
    rw [← reader, ← client]
    exact step.effect.outcome (tidy_run earlier)

theorem sourced_suggestions (run : Run (mount config access route site) events s) :
    Sourced (·.merge.suggestions) none (GivesSuggestions (.ofConfig config))
      (mount config access route site) events s := by
  induction run with
  | nil =>
    obtain ⟨_, _, _, _, view⟩ := mount_view (N := N) config access route site
    exact .inl (congrArg (·.merge.suggestions) view)
  | snoc earlier step ih =>
    obtain ⟨_, client⟩ := reader_run earlier
    refine ih.step earlier step ?_
    rw [← client]
    exact step.effect.suggestions (tidy_run earlier)

/-- In every run the newest call of each kind decides what is shown, whatever calls overlap with it. -/
theorem newest_decides (run : Run (mount config access route site) events s) :
    NewestDecides config access route site events s where
  graph step overtaken := by
    have tidy := tidy_run run
    cases step with
    | reply _ _ waiting =>
      have stale := mt (graph_current_iff tidy.toTicketed waiting).1 overtaken
      exact (s.ended_graph _ _ _).trans (if_neg stale)
  suggestions step overtaken := by
    have tidy := tidy_run run
    cases step with
    | reply _ _ waiting =>
      have stale := mt (suggestions_current_iff tidy.toTicketed waiting).1 overtaken
      exact (s.ended_suggestions _ _ _).trans (if_neg stale)
  loading := (tidy_run run).loading
  outcome := sourced_outcome run
  merges := sourced_suggestions run
  order reads order ends := reorder (tidy_run run).toTicketed reads order ends

/-- The graph of the first collection comes when the second one is shown already, whose own then fails. -/
theorem newest_decides_late : ∃ s : Session Float Float32,
    NewestDecides {} .owned (some "A") ⟨none, ⟨0, 0⟩, false⟩
      [.navigate (some "B"), .reply (.graph collectionA ⟨1⟩) (some (.response 200 "[]")),
        .reply (.graph collectionB ⟨2⟩) none] s ∧
      s.view.outcome.status = .error ∧ s.view.loading = false := by
  let start : Session Float Float32 := mount {} .owned (some "A") ⟨none, ⟨0, 0⟩, false⟩
  have nothing : Run start [] start := .nil
  have moved := nothing.snoc (.navigate (some "B"))
  have late := moved.snoc
    (.reply (.graph collectionA ⟨1⟩) (some (.response 200 "[]")) (by decide +kernel))
  have failed := late.snoc (.reply (.graph collectionB ⟨2⟩) none (by decide +kernel))
  exact ⟨_, newest_decides failed, by decide +kernel, by decide +kernel⟩

end Session

end GraphViewer

import Mathlib.Data.List.Nodup
import Mathlib.Data.List.Perm.Basic
import GraphViewer.Proofs.Steps
/-
Calls that read overlap, and their replies come in any order. Each call has a ticket of its own, the newest of
its kind has the current one, and the newest calls are for the collection that is shown. This is kept by
every step, together with the flag that tells whether a graph is being loaded.
-/

namespace GraphViewer

/-- The collection and the ticket of a call for a graph. -/
@[simp]
def Call.graphRead? : Call → Option (CollectionId × Ticket)
  | .graph collection ticket => some (collection, ticket)
  | .suggestions _ _ | .action _ _ _ => none

/-- The collection and the ticket of a call for merge suggestions. -/
@[simp]
def Call.suggestionsRead? : Call → Option (CollectionId × Ticket)
  | .suggestions collection ticket => some (collection, ticket)
  | .graph _ _ | .action _ _ _ => none

/-! ## Numbered calls -/

/-- The tickets of these calls are all that have been taken, one after the other. -/
def Numbered (reads : List (CollectionId × Ticket)) (t : Tickets) : Prop :=
  reads.map (·.2.number) = List.range' 1 t.taken

namespace Numbered

variable {reads : List (CollectionId × Ticket)} {t : Tickets}

theorem next (numbered : Numbered reads t) (collection : CollectionId) :
    Numbered (reads ++ [(collection, t.next.2)]) t.next.1 := by
  rw [Numbered] at numbered ⊢
  rw [List.map_append, numbered, Tickets.next, ← List.range'_append_1, Nat.add_comm 1]
  rfl

theorem nodup (numbered : Numbered reads t) : (reads.map (·.2.number)).Nodup := by
  rw [numbered]
  exact List.nodup_range'

/-- The current ticket is the one of the newest call. -/
theorem isCurrent_iff (numbered : Numbered reads t) {read : CollectionId × Ticket} (taken : read ∈ reads) :
    t.isCurrent read.2 = true ↔ reads.getLast? = some read := by
  obtain ⟨last, isLast⟩ : ∃ last, reads.getLast? = some last :=
    ⟨_, List.getLast?_eq_some_getLast (List.ne_nil_of_mem taken)⟩
  have lastNumber : last.2.number = t.taken := by
    have mapped := congrArg List.getLast? numbered
    rw [List.getLast?_map, isLast, List.getLast?_range'] at mapped
    split at mapped
    · cases mapped
    · simpa using mapped
  rw [Tickets.isCurrent, beq_iff_eq, isLast, ← lastNumber]
  constructor
  · intro same
    exact congrArg some (List.inj_on_of_nodup_map numbered.nodup (List.mem_of_getLast? isLast) taken same)
  · intro same
    cases same
    rfl

end Numbered

/-! ## What comes of a reply -/

/-- The outcome that a reply to a call for a graph leads to. -/
def Client.outcome (c : Client) (collection : CollectionId) (access : Access) (reply : Option Reply) :
    Outcome :=
  .ofResult ((c.graph collection access reply).1.map Loaded.snapshot)

namespace View

variable {W N : Type} {v : View W N} {collection : CollectionId} {ticket : Ticket} {reply : Option Reply}

section

variable [Scalar W] [Scalar N] [Narrowing W N]

/-- Takes in what a call for the graph comes to. -/
def settle (v : View W N) : Except Failure Loaded → View W N
  | .ok loaded => v.adopt loaded
  | .error failure => { v with outcome := .failed failure, loading := false }

/-- Takes in what a call for the suggestions comes to. -/
def suggested (v : View W N) : Except Failure Suggestions → View W N
  | .ok found => { v with merge := { v.merge with suggestions := some found } }
  | .error _ => v

theorem graphReplied_view : (v.graphReplied collection ticket reply).view =
    if v.graphTickets.isCurrent ticket then v.settle (v.client.graph collection v.access reply).1 else v := by
  rw [graphReplied]
  cases v.graphTickets.isCurrent ticket with
  | false => rfl
  | true =>
    cases result : (v.client.graph collection v.access reply).1 with
    | ok loaded => simp [result, settle]
    | error failure => simp [result, settle]

theorem graphReplied_calls : (v.graphReplied collection ticket reply).calls = [] := by
  rw [graphReplied]
  cases v.graphTickets.isCurrent ticket with
  | false => rfl
  | true =>
    cases result : (v.client.graph collection v.access reply).1 with
    | ok loaded => simp [result]
    | error failure => simp [result]

end

theorem suggestionsReplied_view : (v.suggestionsReplied collection ticket reply).view =
    if v.suggestionTickets.isCurrent ticket then v.suggested (v.client.suggestions collection reply).1
    else v := by
  rw [suggestionsReplied]
  cases v.suggestionTickets.isCurrent ticket with
  | false => rfl
  | true =>
    cases result : (v.client.suggestions collection reply).1 with
    | ok found => simp [result, suggested]
    | error failure => simp [result, suggested]

theorem suggestionsReplied_calls : (v.suggestionsReplied collection ticket reply).calls = [] := by
  rw [suggestionsReplied]
  cases v.suggestionTickets.isCurrent ticket with
  | false => rfl
  | true =>
    cases result : (v.client.suggestions collection reply).1 with
    | ok found => simp [result]
    | error failure => simp [result]

variable {suggestion : String} {action : MergeAction}

theorem actionReplied_ok (passed : (v.client.action collection suggestion action reply).1 = .ok ()) :
    (v.actionReplied collection suggestion action reply).view =
        { v.refresh.1 with merge := { v.refresh.1.merge with busy := false } } ∧
      (v.actionReplied collection suggestion action reply).calls = v.refresh.2 := by
  simp [actionReplied, passed]

theorem actionReplied_error {failure : Failure}
    (failed : (v.client.action collection suggestion action reply).1 = .error failure) :
    (v.actionReplied collection suggestion action reply).view =
        { v with merge := { v.merge with busy := false, error := some failure.message } } ∧
      (v.actionReplied collection suggestion action reply).calls = [] := by
  simp [actionReplied, failed]

/-! ## Reading anew -/

theorem refresh_of_none (unknown : v.collection? = none) : v.refresh = (v, []) := by
  simp [refresh, unknown]

theorem refresh_of_reader (wanted : v.collection? = some collection) (reader : v.access.isOwner = false) :
    v.refresh = ((v.readGraph collection).1, [.graph collection v.graphTickets.next.2]) := by
  simp [refresh, wanted, readGraph, reader]

theorem refresh_of_owner (wanted : v.collection? = some collection) (owner : v.access.isOwner = true) :
    v.refresh = (((v.readGraph collection).1.readSuggestions collection).1,
      [.graph collection v.graphTickets.next.2, .suggestions collection v.suggestionTickets.next.2]) := by
  simp [refresh, wanted, readGraph, readSuggestions, owner]

/-- Asking for something shows nothing yet. -/
theorem refresh_shows (v : View W N) : ∃ loading graphs suggestions, v.refresh.1 =
    { v with loading := loading, graphTickets := graphs, suggestionTickets := suggestions } := by
  cases wanted : v.collection? with
  | none => exact ⟨_, _, _, by rw [refresh_of_none wanted]⟩
  | some collection =>
    cases owner : v.access.isOwner with
    | false => exact ⟨_, _, _, by rw [refresh_of_reader wanted owner, readGraph]⟩
    | true => exact ⟨_, _, _, by rw [refresh_of_owner wanted owner, readGraph, readSuggestions]⟩

/-- The end of an answer that was passed on shows at most an error. -/
theorem actionReplied_shows (v : View W N) (collection : CollectionId) (suggestion : String)
    (action : MergeAction) (reply : Option Reply) : ∃ loading graphs suggestions error,
    (v.actionReplied collection suggestion action reply).view =
      { v with
        loading := loading, graphTickets := graphs, suggestionTickets := suggestions
        merge := { v.merge with busy := false, error := error } } := by
  cases result : (v.client.action collection suggestion action reply).1 with
  | ok _ =>
    obtain ⟨loading, graphs, suggestions, same⟩ := v.refresh_shows
    refine ⟨loading, graphs, suggestions, v.merge.error, ?_⟩
    rw [(actionReplied_ok result).1, same]
  | error failure => exact ⟨_, _, _, _, (actionReplied_error result).1⟩

/-- The view once it has gone on to the collection in its route, before it reads it. -/
def arrived (v : View W N) : View W N :=
  let shown := { v with scope := (v.scope.enter v.collection?).1 }
  if (v.scope.enter v.collection?).2 then shown.reset else shown

/-- It either shows what it showed before, or nothing. -/
theorem arrived_cases (v : View W N) :
    (v.arrived = { v with scope := (v.scope.enter v.collection?).1 } ∧
      ∀ collection, v.scope.shown = some collection → v.arrived.scope.shown = some collection) ∨
    v.arrived = { v with scope := (v.scope.enter v.collection?).1 }.reset := by
  cases switched : (v.scope.enter v.collection?).2 with
  | true => exact .inr (by simp [arrived, switched])
  | false =>
    have same : v.arrived = { v with scope := (v.scope.enter v.collection?).1 } := by simp [arrived, switched]
    refine .inl ⟨same, fun collection shown => ?_⟩
    rw [same]
    cases wanted : v.collection? with
    | none => exact shown
    | some next =>
      rw [wanted, Scope.enter, shown] at switched
      have equal : collection = next := by simpa using switched
      rw [equal]
      rfl

theorem arrived_of_none (unknown : v.collection? = none) : v.arrived = v := by
  simp [arrived, unknown, Scope.enter]

theorem arrived_shown (wanted : v.collection? = some collection) :
    v.arrived.scope.shown = some collection := by
  rcases v.arrived_cases with ⟨same, _⟩ | same
  all_goals rw [same]; simp [reset, wanted, Scope.enter]

theorem arrived_books (v : View W N) : SameBooks v { v.arrived with scope := v.scope } := by
  rcases v.arrived_cases with ⟨same, _⟩ | same
  all_goals rw [same]; exact ⟨rfl, rfl, rfl, rfl, rfl, rfl, rfl⟩

theorem suggested_books (v : View W N) (result : Except Failure Suggestions) :
    SameBooks v (v.suggested result) := by
  cases result with
  | error failure => exact ⟨rfl, rfl, rfl, rfl, rfl, rfl, rfl⟩
  | ok found => exact ⟨rfl, rfl, rfl, rfl, rfl, rfl, rfl⟩

variable [Scalar W] [Scalar N] [Narrowing W N]

theorem settle_keeps (v : View W N) (result : Except Failure Loaded) :
    SameBooks v { v.settle result with loading := v.loading } ∧ (v.settle result).loading = false ∧
      (v.settle result).outcome = .ofResult (result.map Loaded.snapshot) ∧
      (v.settle result).merge = v.merge := by
  cases result with
  | error failure => exact ⟨⟨rfl, rfl, rfl, rfl, rfl, rfl, rfl⟩, rfl, rfl, rfl⟩
  | ok loaded =>
    rw [settle, adopt]
    obtain ⟨interaction, aim⟩ := v.interaction.adopt loaded.snapshot loaded.groups
    cases aim with
    | none => exact ⟨⟨rfl, rfl, rfl, rfl, rfl, rfl, rfl⟩, rfl, rfl, rfl⟩
    | some aim => exact ⟨⟨rfl, rfl, rfl, rfl, rfl, rfl, rfl⟩, rfl, rfl, rfl⟩

/-- The end of a call changes neither the reader nor the collection that is shown. -/
theorem replied_reader (v : View W N) (call : Call) (answer : Option Reply) :
    (v.replied call answer).view.access = v.access ∧ (v.replied call answer).view.client = v.client ∧
      (v.replied call answer).view.scope = v.scope := by
  cases call with
  | graph c t =>
    rw [replied, graphReplied_view]
    split
    · have books := (v.settle_keeps (v.client.graph c v.access answer).1).1
      exact ⟨books.access, books.client, books.scope⟩
    · exact ⟨rfl, rfl, rfl⟩
  | suggestions c t =>
    rw [replied, suggestionsReplied_view]
    split
    · have books := v.suggested_books (v.client.suggestions c answer).1
      exact ⟨books.access, books.client, books.scope⟩
    · exact ⟨rfl, rfl, rfl⟩
  | action c suggestion action =>
    obtain ⟨_, _, _, _, same⟩ := v.actionReplied_shows c suggestion action answer
    rw [replied, same]
    exact ⟨rfl, rfl, rfl⟩

end View

/-! ## The invariant -/

namespace Session

variable {W N : Type}

def graphReads (s : Session W N) : List (CollectionId × Ticket) :=
  s.issued.filterMap Call.graphRead?

def suggestionReads (s : Session W N) : List (CollectionId × Ticket) :=
  s.issued.filterMap Call.suggestionsRead?

/-- The newest call for a graph. -/
def newestGraph? (s : Session W N) : Option (CollectionId × Ticket) :=
  s.graphReads.getLast?

/-- The newest call for merge suggestions. -/
def newestSuggestions? (s : Session W N) : Option (CollectionId × Ticket) :=
  s.suggestionReads.getLast?

/-- Every call that reads has a ticket of its own. -/
structure Ticketed (s : Session W N) : Prop where
  graph : Numbered s.graphReads s.view.graphTickets
  suggestions : Numbered s.suggestionReads s.view.suggestionTickets
  reader : s.view.access.isOwner = false → s.suggestionReads = []
  waiting : s.waiting.Sublist s.issued

/-- Moreover the newest calls are for the collection that is shown, which is the one in the route unless that
one is blank, and the view is loading while the newest call for a graph is under way. -/
structure Tidy (s : Session W N) : Prop extends Ticketed s where
  graphShown : ∀ {collection ticket}, s.newestGraph? = some (collection, ticket) →
    s.view.scope.shown = some collection
  suggestionsShown : ∀ {collection ticket}, s.newestSuggestions? = some (collection, ticket) →
    s.view.scope.shown = some collection
  wanted : ∀ {collection}, s.view.collection? = some collection → s.view.scope.shown = some collection
  loading : s.view.loading = true ↔
    ∃ collection ticket, s.newestGraph? = some (collection, ticket) ∧ .graph collection ticket ∈ s.waiting

variable {s next : Session W N} {e : Event W} {v : View W N} {collection : CollectionId} {ticket : Ticket}

theorem Ticketed.withView (h : Ticketed s) (graph : v.graphTickets = s.view.graphTickets)
    (suggestions : v.suggestionTickets = s.view.suggestionTickets) (access : v.access = s.view.access) :
    Ticketed { s with view := v } where
  graph := by
    rw [graph]
    exact h.graph
  suggestions := by
    rw [suggestions]
    exact h.suggestions
  reader := by
    rw [access]
    exact h.reader
  waiting := h.waiting

theorem Tidy.withView (h : Tidy s) (same : s.view.SameBooks v) : Tidy { s with view := v } where
  toTicketed := h.toTicketed.withView same.graphTickets same.suggestionTickets same.access
  graphShown newest := by
    rw [same.scope]
    exact h.graphShown newest
  suggestionsShown newest := by
    rw [same.scope]
    exact h.suggestionsShown newest
  wanted route := by
    rw [same.collection?] at route
    rw [same.scope]
    exact h.wanted route
  loading := by
    rw [same.loading]
    exact h.loading

theorem refreshed_graph (wanted : s.view.collection? = some collection) :
    s.refreshed.graphReads = s.graphReads ++ [(collection, s.view.graphTickets.next.2)] ∧
      s.refreshed.view.graphTickets = s.view.graphTickets.next.1 ∧ s.refreshed.view.loading = true ∧
      .graph collection s.view.graphTickets.next.2 ∈ s.refreshed.waiting := by
  cases owner : s.view.access.isOwner with
  | false =>
    rw [Session.refreshed, View.refresh_of_reader wanted owner]
    simp [graphReads, follow, View.readGraph]
  | true =>
    rw [Session.refreshed, View.refresh_of_owner wanted owner]
    simp [graphReads, follow, View.readGraph, View.readSuggestions]

theorem refreshed_suggestions (wanted : s.view.collection? = some collection) :
    if s.view.access.isOwner then
      s.refreshed.suggestionReads = s.suggestionReads ++ [(collection, s.view.suggestionTickets.next.2)] ∧
        s.refreshed.view.suggestionTickets = s.view.suggestionTickets.next.1
    else s.refreshed.suggestionReads = s.suggestionReads ∧
      s.refreshed.view.suggestionTickets = s.view.suggestionTickets := by
  cases owner : s.view.access.isOwner with
  | false =>
    rw [Session.refreshed, View.refresh_of_reader wanted owner]
    simp [suggestionReads, follow, View.readGraph]
  | true =>
    rw [Session.refreshed, View.refresh_of_owner wanted owner]
    simp [suggestionReads, follow, View.readGraph, View.readSuggestions, List.filterMap_cons]

/-- Reading the collection that is shown leaves everything tidy, whatever was read before. -/
theorem Ticketed.refreshed (h : Ticketed s) (wanted : s.view.collection? = some collection)
    (shown : s.view.scope.shown = some collection) : Tidy s.refreshed := by
  obtain ⟨graphs, graphTickets, loading, waiting⟩ := refreshed_graph wanted
  have suggestions := refreshed_suggestions wanted
  obtain ⟨access, route, scope⟩ : s.refreshed.view.access = s.view.access ∧
      s.refreshed.view.route = s.view.route ∧ s.refreshed.view.scope = s.view.scope := by
    obtain ⟨_, _, _, same⟩ := s.view.refresh_shows
    simp [Session.refreshed, follow, same]
  -- what was read before may be for another collection: the new calls are the newest ones now
  refine ⟨⟨?graph, ?suggestions, ?reader, h.waiting.append_right _⟩, ?graphShown, ?suggestionsShown, ?wanted,
    ?loading⟩
  case graph =>
    rw [graphs, graphTickets]
    exact h.graph.next collection
  case suggestions =>
    split at suggestions
    · rw [suggestions.1, suggestions.2]
      exact h.suggestions.next collection
    · rw [suggestions.1, suggestions.2]
      exact h.suggestions
  case reader =>
    intro reader
    rw [access] at reader
    rw [reader, if_neg (by simp)] at suggestions
    rw [suggestions.1]
    exact h.reader reader
  case graphShown =>
    intro c t newest
    rw [newestGraph?, graphs, List.getLast?_concat] at newest
    cases newest
    rw [scope, shown]
  case suggestionsShown =>
    intro c t newest
    rw [newestSuggestions?] at newest
    split at suggestions
    · rw [suggestions.1, List.getLast?_concat] at newest
      cases newest
      rw [scope, shown]
    · rename_i reader
      rw [suggestions.1, h.reader (by simpa using reader)] at newest
      cases newest
  case wanted =>
    intro c isRoute
    rw [View.collection?, route] at isRoute
    rw [scope, shown, ← wanted]
    exact isRoute
  case loading =>
    refine iff_of_true loading ⟨collection, _, ?_, waiting⟩
    rw [newestGraph?, graphs, List.getLast?_concat]

theorem Ticketed.arrived (h : Ticketed s) (wanted : s.view.collection? = some collection) :
    Tidy (Session.refreshed { s with view := s.view.arrived }) := by
  have books := s.view.arrived_books
  have ticketed : Ticketed { s with view := s.view.arrived } :=
    h.withView books.graphTickets books.suggestionTickets books.access
  exact ticketed.refreshed (books.collection?.trans wanted) (View.arrived_shown wanted)

theorem tidy_mount [Scalar W] (config : Config) (access : Access) (route : Option String) (site : Site W) :
    Tidy (mount (N := N) config access route site) := by
  let blank : Session W N := ⟨View.blank config access route site, [], []⟩
  have ticketed : Ticketed blank := ⟨rfl, rfl, fun _ => rfl, .refl _⟩
  have same : mount config access route site = refreshed { blank with view := blank.view.arrived } := rfl
  cases wanted : blank.view.collection? with
  | some collection => exact ticketed.arrived wanted
  | none =>
    rw [same, View.arrived_of_none wanted, refreshed, View.refresh_of_none wanted]
    refine ⟨ticketed, ?_, ?_, ?_, ?_⟩
    · intro c t newest
      cases newest
    · intro c t newest
      cases newest
    · intro c route
      cases wanted.symm.trans route
    · exact iff_of_false Bool.false_ne_true fun ⟨_, _, newest, _⟩ => nomatch newest

theorem Tidy.entered (h : Tidy s) (route : Option String) : Tidy (s.entered route) := by
  let routed : Session W N := { s with view := { s.view with route := route } }
  have ticketed : Ticketed routed := h.toTicketed.withView rfl rfl rfl
  have same : s.entered route = refreshed { routed with view := routed.view.arrived } := rfl
  cases wanted : routed.view.collection? with
  | some collection => exact ticketed.arrived wanted
  | none =>
    rw [same, View.arrived_of_none wanted, refreshed, View.refresh_of_none wanted, follow_of_calls _ rfl]
    refine ⟨ticketed, h.graphShown, h.suggestionsShown, ?_, h.loading⟩
    intro c route
    cases wanted.symm.trans route

theorem Tidy.refreshed (h : Tidy s) : Tidy s.refreshed := by
  cases wanted : s.view.collection? with
  | some collection => exact h.toTicketed.refreshed wanted (h.wanted wanted)
  | none =>
    rw [Session.refreshed, View.refresh_of_none wanted, follow_of_calls _ rfl]
    exact h

/-- A call that reads nothing may start at any time. -/
theorem Tidy.answers (h : Tidy s) (suggestion : String) (action : MergeAction) :
    Tidy (s.follow (s.view.answer suggestion action)) := by
  unfold View.answer
  split
  · rw [View.quiet, follow_of_calls _ rfl]
    exact h
  · rename_i collection _
    let asked : Session W N := { s with
      issued := s.issued ++ [.action collection suggestion action]
      waiting := s.waiting ++ [.action collection suggestion action] }
    have graphs : asked.graphReads = s.graphReads := by simp [asked, graphReads]
    have suggestions : asked.suggestionReads = s.suggestionReads := by simp [asked, suggestionReads]
    have tidy : Tidy asked := by
      refine ⟨⟨?_, ?_, ?_, h.waiting.append_right _⟩, ?_, ?_, h.wanted, ?_⟩
      · rw [graphs]
        exact h.graph
      · rw [suggestions]
        exact h.suggestions
      · rw [suggestions]
        exact h.reader
      · rw [newestGraph?, graphs]
        exact h.graphShown
      · rw [newestSuggestions?, suggestions]
        exact h.suggestionsShown
      · rw [newestGraph?, graphs]
        simpa [asked, newestGraph?] using h.loading
    exact tidy.withView ⟨rfl, rfl, rfl, rfl, rfl, rfl, rfl⟩

/-! ### The end of a call -/

theorem graphRead_of_waiting (h : Ticketed s) (waiting : .graph collection ticket ∈ s.waiting) :
    (collection, ticket) ∈ s.graphReads :=
  List.mem_filterMap.2 ⟨_, h.waiting.subset waiting, rfl⟩

theorem suggestionsRead_of_waiting (h : Ticketed s) (waiting : .suggestions collection ticket ∈ s.waiting) :
    (collection, ticket) ∈ s.suggestionReads :=
  List.mem_filterMap.2 ⟨_, h.waiting.subset waiting, rfl⟩

/-- The same call for a graph is under way only once. -/
theorem Ticketed.graph_notMem_erase (h : Ticketed s) (waiting : .graph collection ticket ∈ s.waiting) :
    .graph collection ticket ∉ s.waiting.erase (.graph collection ticket) := by
  intro again
  have once : (s.waiting.filterMap Call.graphRead?).Nodup :=
    (List.Nodup.of_map _ h.graph.nodup).sublist (h.waiting.filterMap _)
  rw [((List.perm_cons_erase waiting).filterMap _).nodup_iff] at once
  refine (List.nodup_cons.1 once).1 (List.mem_filterMap.2 ⟨_, again, rfl⟩)

theorem Ticketed.without (h : Ticketed s) (call : Call) : Ticketed (s.without call) :=
  ⟨h.graph, h.suggestions, h.reader, List.erase_sublist.trans h.waiting⟩

/-- Any other call than the newest one for a graph may end. -/
theorem Tidy.without (h : Tidy s) {call : Call}
    (other : ∀ {collection ticket}, s.newestGraph? = some (collection, ticket) →
      call ≠ .graph collection ticket) :
    Tidy (s.without call) := by
  refine ⟨h.toTicketed.without call, h.graphShown, h.suggestionsShown, h.wanted, ?_⟩
  refine h.loading.trans (exists_congr fun collection => exists_congr fun ticket => ?_)
  refine and_congr_right fun newest => ?_
  exact (List.mem_erase_of_ne (other newest).symm).symm

variable [Scalar W] [Scalar N] [Narrowing W N]

theorem Tidy.graph_ended (h : Tidy s) (waiting : .graph collection ticket ∈ s.waiting)
    (answer : Option Reply) : Tidy (s.ended (.graph collection ticket) answer) := by
  have current := h.graph.isCurrent_iff (graphRead_of_waiting h.toTicketed waiting)
  rw [ended, View.replied, follow_of_calls _ View.graphReplied_calls, View.graphReplied_view]
  split
  · rename_i isCurrent
    obtain ⟨books, loading, _, _⟩ :=
      s.view.settle_keeps (s.view.client.graph collection s.view.access answer).1
    have ticketed := h.toTicketed.without (.graph collection ticket)
    refine ⟨ticketed.withView books.graphTickets books.suggestionTickets books.access, ?_, ?_, ?_, ?_⟩
    · intro c t newest
      exact (congrArg Scope.shown books.scope).trans (h.graphShown newest)
    · intro c t newest
      exact (congrArg Scope.shown books.scope).trans (h.suggestionsShown newest)
    · intro c route
      exact (congrArg Scope.shown books.scope).trans (h.wanted (books.collection?.symm.trans route))
    -- the newest call has just ended, and it was under way only once
    · refine iff_of_false (by simpa using loading) ?_
      rintro ⟨c, t, newest, still⟩
      have same : (collection, ticket) = (c, t) := Option.some.inj ((current.1 isCurrent).symm.trans newest)
      cases same
      exact h.graph_notMem_erase waiting still
  · rename_i stale
    refine h.without fun newest same => stale ?_
    cases same
    exact current.2 newest

theorem Tidy.ended (h : Tidy s) {call : Call} (waiting : call ∈ s.waiting) (answer : Option Reply) :
    Tidy (s.ended call answer) := by
  cases call with
  | graph collection ticket => exact h.graph_ended waiting answer
  | suggestions collection ticket =>
    rw [Session.ended, View.replied, follow_of_calls _ View.suggestionsReplied_calls,
      View.suggestionsReplied_view]
    split
    · exact (h.without (by simp)).withView (View.suggested_books s.view _)
    · exact h.without (by simp)
  | action collection suggestion action =>
    have rest : Tidy (s.without (.action collection suggestion action)) := h.without (by simp)
    rw [Session.ended, View.replied]
    cases result : (s.view.client.action collection suggestion action answer).1 with
    | ok _ =>
      obtain ⟨view, calls⟩ := View.actionReplied_ok result
      rw [follow, view, calls]
      exact rest.refreshed.withView ⟨rfl, rfl, rfl, rfl, rfl, rfl, rfl⟩
    | error failure =>
      obtain ⟨view, calls⟩ := View.actionReplied_error result
      rw [follow_of_calls _ calls, view]
      exact rest.withView ⟨rfl, rfl, rfl, rfl, rfl, rfl, rfl⟩

/-- Everything stays tidy. -/
theorem Tidy.effect (h : Tidy s) (effect : Effect s e next) : Tidy next := by
  cases effect with
  | glances glance => exact h.withView glance.looks.toSameBooks
  | refreshes => exact h.refreshed
  | answers _ => exact h.answers _ _
  | enters _ => exact h.entered _
  | ends answer waiting => exact h.ended waiting answer

/-! ### What is shown -/

omit [Scalar N] [Narrowing W N] in
/-- The view as it comes up shows nothing yet. -/
theorem mount_view (config : Config) (access : Access) (route : Option String) (site : Site W) :
    ∃ scope loading graphs suggestions, (mount (N := N) config access route site).view =
      { View.blank config access route site with
        scope := scope, loading := loading, graphTickets := graphs, suggestionTickets := suggestions } := by
  let blank : View W N := View.blank config access route site
  obtain ⟨loading, graphs, suggestions, read⟩ := blank.arrived.refresh_shows
  refine ⟨(blank.scope.enter blank.collection?).1, loading, graphs, suggestions, ?_⟩
  have view : (mount (N := N) config access route site).view = blank.arrived.refresh.1 := rfl
  rw [view, read]
  rcases blank.arrived_cases with ⟨arrived, _⟩ | arrived
  · rw [arrived]
  · rw [arrived]
    rfl

theorem ended_graph (s : Session W N) (collection : CollectionId) (ticket : Ticket) (answer : Option Reply) :
    (s.ended (.graph collection ticket) answer).view =
    if s.view.graphTickets.isCurrent ticket then
      s.view.settle (s.view.client.graph collection s.view.access answer).1
    else s.view :=
  View.graphReplied_view

theorem ended_suggestions (s : Session W N) (collection : CollectionId) (ticket : Ticket)
    (answer : Option Reply) : (s.ended (.suggestions collection ticket) answer).view =
    if s.view.suggestionTickets.isCurrent ticket then
      s.view.suggested (s.view.client.suggestions collection answer).1
    else s.view :=
  View.suggestionsReplied_view

theorem ended_action (s : Session W N) (collection : CollectionId) (suggestion : String)
    (action : MergeAction) (answer : Option Reply) :
    ∃ loading graphs suggestions error, (s.ended (.action collection suggestion action) answer).view =
      { s.view with
        loading := loading, graphTickets := graphs, suggestionTickets := suggestions
        merge := { s.view.merge with busy := false, error := error } } :=
  s.view.actionReplied_shows collection suggestion action answer

theorem ended_shown (call : Call) (answer : Option Reply) :
    ∀ collection, s.view.scope.shown = some collection →
      (s.ended call answer).view.scope.shown = some collection := by
  obtain ⟨_, _, scope⟩ := s.view.replied_reader call answer
  intro collection shown
  exact (congrArg Scope.shown scope).trans shown

omit [Scalar W] [Scalar N] [Narrowing W N] in
/-- Another route drops what was shown, unless it leads to the same collection or to none. -/
theorem entered_cases (s : Session W N) (route : Option String) :
    ((s.entered route).view.outcome = s.view.outcome ∧ (s.entered route).view.merge = s.view.merge ∧
      ∀ collection, s.view.scope.shown = some collection →
        (s.entered route).view.scope.shown = some collection) ∨
    ((s.entered route).view.outcome = .pending ∧ (s.entered route).view.merge.suggestions = none ∧
      (s.entered route).view.merge.error = none) := by
  let routed : View W N := { s.view with route := route }
  obtain ⟨_, _, _, read⟩ := routed.arrived.refresh_shows
  have same : (s.entered route).view = routed.arrived.refresh.1 := rfl
  rw [same, read]
  rcases routed.arrived_cases with ⟨arrived, kept⟩ | arrived
  · refine .inl ⟨?_, ?_, kept⟩
    · rw [arrived]
    · rw [arrived]
  · refine .inr ⟨?_, ?_, ?_⟩
    all_goals rw [arrived, View.reset]

/-- Whatever happens but the end of a call, it leaves what was read for a collection as it is, or drops it
with the collection. -/
theorem Effect.shows (effect : Effect s e next) :
    (next.view.outcome = s.view.outcome ∧ next.view.merge.suggestions = s.view.merge.suggestions ∧
        (next.view.merge.error = s.view.merge.error ∨ next.view.merge.error = none) ∧
        ∀ collection, s.view.scope.shown = some collection → next.view.scope.shown = some collection) ∨
      (next.view.outcome = .pending ∧ next.view.merge.suggestions = none ∧ next.view.merge.error = none) ∨
      ∃ call answer, e = .reply call answer ∧ call ∈ s.waiting ∧ next = s.ended call answer := by
  cases effect with
  | glances glance =>
    have looks := glance.looks
    refine .inl ⟨looks.outcome, looks.suggestions, .inl looks.error, fun collection shown => ?_⟩
    exact (congrArg Scope.shown looks.scope).trans shown
  | refreshes =>
    obtain ⟨_, _, _, same⟩ := s.view.refresh_shows
    rw [refreshed, same]
    exact .inl ⟨rfl, rfl, .inl rfl, fun _ shown => shown⟩
  | answers _ =>
    rw [follow, View.answer]
    split
    · exact .inl ⟨rfl, rfl, .inl rfl, fun _ shown => shown⟩
    · exact .inl ⟨rfl, rfl, .inr rfl, fun _ shown => shown⟩
  | @enters route _ =>
    rcases s.entered_cases route with ⟨outcome, merge, shown⟩ | dropped
    · have error := congrArg MergeState.error merge
      exact .inl ⟨outcome, congrArg MergeState.suggestions merge, .inl error, shown⟩
    · exact .inr (.inl dropped)
  | ends answer waiting => exact .inr (.inr ⟨_, answer, rfl, waiting, rfl⟩)

/-- The reader never changes. -/
theorem Effect.reader (effect : Effect s e next) :
    next.view.access = s.view.access ∧ next.view.client = s.view.client := by
  have refreshed (v : View W N) : v.refresh.1.access = v.access ∧ v.refresh.1.client = v.client := by
    obtain ⟨_, _, _, same⟩ := v.refresh_shows
    rw [same]
    exact ⟨rfl, rfl⟩
  cases effect with
  | glances glance => exact ⟨glance.looks.access, glance.looks.client⟩
  | refreshes => exact refreshed s.view
  | answers _ =>
    rw [follow, View.answer]
    split <;> exact ⟨rfl, rfl⟩
  | @enters route _ =>
    let routed : View W N := { s.view with route := route }
    have books := routed.arrived_books
    exact ⟨(refreshed routed.arrived).1.trans books.access, (refreshed routed.arrived).2.trans books.client⟩
  | @ends call answer _ =>
    obtain ⟨access, client, _⟩ := s.view.replied_reader call answer
    exact ⟨access, client⟩

theorem tidy_run {config : Config} {access : Access} {route : Option String} {site : Site W}
    {events : List (Event W)} (run : Run (mount config access route site) events s) : Tidy s :=
  run.keeps Tidy (tidy_mount config access route site) fun tidy step => tidy.effect step.effect

end Session

end GraphViewer

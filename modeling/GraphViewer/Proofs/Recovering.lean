import GraphViewer.Proofs.Focus
import GraphViewer.Proofs.NewestCall
/-
Graphs that could not be read. The error takes the place of the snapshot, and nothing else comes of it: the
focus, the switches, the groups and the camera are left for the next graph, which is taken in as if nothing
had happened in between.
-/

namespace GraphViewer

variable {W N : Type}

namespace View

variable {u v w : View W N}

/-- The views differ at most in the outcome and in what they have asked for. -/
def Alike (v w : View W N) : Prop :=
  ∃ outcome loading graphs suggestions, w =
    { v with
      outcome := outcome, loading := loading, graphTickets := graphs, suggestionTickets := suggestions }

theorem Alike.trans (one : Alike u v) (other : Alike v w) : Alike u w := by
  obtain ⟨_, _, _, _, rfl⟩ := one
  obtain ⟨_, _, _, _, rfl⟩ := other
  exact ⟨_, _, _, _, rfl⟩

theorem alike_refresh (v : View W N) : Alike v v.refresh.1 := by
  obtain ⟨_, _, _, same⟩ := v.refresh_shows
  exact ⟨_, _, _, _, same⟩

/-- The views show the same graph, with the same in focus and the same aim. -/
structure SameGraph (v w : View W N) : Prop extends SameFocus v w where
  aim : w.aim = v.aim

theorem SameGraph.symm (same : SameGraph v w) : SameGraph w v :=
  ⟨⟨same.outcome.symm, same.groups.symm, same.interaction.symm, same.canvas.symm⟩, same.aim.symm⟩

theorem SameGraph.trans (one : SameGraph u v) (other : SameGraph v w) : SameGraph u w :=
  ⟨one.toSameFocus.trans other.toSameFocus, other.aim.trans one.aim⟩

variable [Scalar W] [Scalar N] [Narrowing W N]

/-- What a new graph leads to depends neither on the outcome before nor on what was asked for. -/
theorem Alike.adopt (alike : Alike v w) (loaded : Loaded) : SameGraph (v.adopt loaded) (w.adopt loaded) := by
  obtain ⟨_, _, _, _, rfl⟩ := alike
  rw [View.adopt, View.adopt]
  obtain ⟨interaction, aim⟩ := v.interaction.adopt loaded.snapshot loaded.groups
  cases aim with
  | none => exact ⟨⟨rfl, rfl, rfl, rfl⟩, rfl⟩
  | some aim => exact ⟨⟨rfl, rfl, rfl, rfl⟩, rfl⟩

end View

namespace Session

variable {s next : Session W N} {config : Config} {access : Access} {route : Option String} {site : Site W}
  {events : List (Event W)}

variable [Scalar W] [Scalar N] [Narrowing W N]

/-- Some calls for a graph fail, whether or not they have been overtaken, and the newest one then brings a
graph. On the way everything may be asked for anew. -/
inductive Recovers (loaded : Loaded) : Nat → Session W N → Session W N → Prop
  | reads {s next : Session W N} {collection : CollectionId} {ticket : Ticket} {reply : Option Reply} :
      s.newestGraph? = some (collection, ticket) →
      (s.view.client.graph collection s.view.access reply).1 = .ok loaded →
      Step s (.reply (.graph collection ticket) reply) next → Recovers loaded 0 s next
  | asks {n : Nat} {s between next : Session W N} :
      Step s (.use .refresh) between → Recovers loaded n between next → Recovers loaded n s next
  | fails {n : Nat} {s between next : Session W N} {collection : CollectionId} {ticket : Ticket}
      {reply : Option Reply} {failure : Failure} :
      (s.view.client.graph collection s.view.access reply).1 = .error failure →
      Step s (.reply (.graph collection ticket) reply) between → Recovers loaded n between next →
      Recovers loaded (n + 1) s next

/-- Failures to read a graph in a session. -/
structure LeavesNoTrace (s : Session W N) : Prop where
  /-- When the newest call for a graph fails, its error is shown, and all else stays as it was. -/
  failed : ∀ {collection ticket reply failure next}, s.newestGraph? = some (collection, ticket) →
    Step s (.reply (.graph collection ticket) reply) next →
    (s.view.client.graph collection s.view.access reply).1 = .error failure →
    next = { s.without (.graph collection ticket) with
      view := { s.view with outcome := .failed failure, loading := false } }
  /-- The graph that is read in the end is all that counts, however many calls have failed before it. -/
  recovers : ∀ {loaded failures others next other}, Recovers loaded failures s next →
    Recovers loaded others s other → other.view.SameGraph next.view
  /-- Any number of calls can fail before a graph is read. -/
  possible : ∀ {here reply loaded}, s.view.collection? = some here →
    (s.view.client.graph here s.view.access reply).1 = .ok loaded →
    ∀ failures, ∃ next, Recovers loaded failures s next

/-! ## What fails and what is read -/

variable {collection : CollectionId} {ticket : Ticket} {reply : Option Reply} {failure : Failure}
  {loaded : Loaded}

/-- The end of the newest call for a graph is taken in, and nothing is asked for. -/
theorem newest_ended (ticketed : Ticketed s) (newest : s.newestGraph? = some (collection, ticket))
    (step : Step s (.reply (.graph collection ticket) reply) next) :
    next = { s.without (.graph collection ticket) with
      view := s.view.settle (s.view.client.graph collection s.view.access reply).1 } := by
  cases step with
  | reply _ _ waiting =>
    have current := (graph_current_iff ticketed waiting).2 newest
    rw [View.replied, follow_of_calls _ View.graphReplied_calls, View.graphReplied_view, if_pos current]

/-- A call that fails leaves at most its error, and nothing if it has been overtaken. -/
theorem alike_failed (step : Step s (.reply (.graph collection ticket) reply) next)
    (failed : (s.view.client.graph collection s.view.access reply).1 = .error failure) :
    s.view.Alike next.view := by
  cases step with
  | reply _ _ _ =>
    show s.view.Alike (s.view.graphReplied collection ticket reply).view
    rw [View.graphReplied_view, failed]
    split <;> exact ⟨_, _, _, _, rfl⟩

/-- The graph that is read in the end is taken in as if it had come at once. -/
theorem Recovers.sameGraph {failures : Nat} (recovers : Recovers loaded failures s next)
    (tidy : Tidy s) : (s.view.adopt loaded).SameGraph next.view := by
  induction recovers with
  | reads newest brought step =>
    rw [newest_ended tidy.toTicketed newest step, brought]
    exact ⟨⟨rfl, rfl, rfl, rfl⟩, rfl⟩
  | @asks _ s between _ step _ ih =>
    have alike : s.view.Alike between.view := by
      cases step
      exact s.view.alike_refresh
    exact (alike.adopt loaded).trans (ih (tidy.effect step.effect))
  | fails failed step _ ih =>
    have alike := alike_failed step failed
    exact (alike.adopt loaded).trans (ih (tidy.effect step.effect))

/-! ## Failing any number of times -/

/-- The view can be told at any time to ask for everything anew. -/
theorem step_refreshed (s : Session W N) : Step s (.use .refresh) s.refreshed :=
  .use (m := .refresh) (View.offers_iff.2 trivial)

omit [Scalar W] [Scalar N] [Narrowing W N] in
theorem newestGraph?_refreshed {here : CollectionId} (wanted : s.view.collection? = some here) :
    s.refreshed.newestGraph? = some (here, s.view.graphTickets.next.2) := by
  rw [newestGraph?, (refreshed_graph wanted).1, List.getLast?_concat]

/-- A call that was just started may fail, as when no reply comes in time. -/
theorem fails_refreshed {here : CollectionId} (wanted : s.view.collection? = some here) :
    ∃ ticket failure next,
      (s.refreshed.view.client.graph here s.refreshed.view.access none).1 = .error failure ∧
      Step s.refreshed (.reply (.graph here ticket) none) next := by
  obtain ⟨_, _, _, waiting⟩ := refreshed_graph wanted
  exact ⟨_, .timeout s.refreshed.view.client.timeoutMs, _, rfl, .reply _ none waiting⟩

theorem recovers_any {here : CollectionId} (wanted : s.view.collection? = some here)
    (brings : (s.view.client.graph here s.view.access reply).1 = .ok loaded) (failures : Nat) :
    ∃ next, Recovers loaded failures s next := by
  induction failures generalizing s with
  | zero =>
    obtain ⟨_, _, _, waiting⟩ := refreshed_graph wanted
    obtain ⟨access, client⟩ := (step_refreshed s).effect.reader
    rw [← access, ← client] at brings
    have read := Step.reply (s := s.refreshed) (.graph here s.view.graphTickets.next.2) reply waiting
    exact ⟨_, .asks (step_refreshed s) (.reads (newestGraph?_refreshed wanted) brings read)⟩
  | succ failures ih =>
    obtain ⟨ticket, failure, missed, failed, step⟩ := fails_refreshed wanted
    have still : missed.view.collection? = some here ∧
        (missed.view.client.graph here missed.view.access reply).1 = .ok loaded := by
      obtain ⟨_, _, _, _, same⟩ := s.view.alike_refresh.trans (alike_failed step failed)
      rw [same]
      exact ⟨wanted, brings⟩
    obtain ⟨next, recovers⟩ := ih still.1 still.2
    exact ⟨next, .asks (step_refreshed s) (.fails failed step recovers)⟩

/-- In every run a graph that could not be read leaves nothing but its error, which the next graph takes
away without a trace. -/
theorem failure_leaves_no_trace (run : Run (mount config access route site) events s) : LeavesNoTrace s where
  failed newest step failed := by
    rw [newest_ended (tidy_run run).toTicketed newest step, failed]
    rfl
  recovers one other :=
    (other.sameGraph (tidy_run run)).symm.trans (one.sameGraph (tidy_run run))
  possible wanted brings := recovers_any wanted brings

/-- A node is picked from the list that the search finds, everything is asked for anew, and the graph does
not come in time. The node stays active. -/
theorem failure_leaves_no_trace_picked : ∃ s next : Session Float Float32,
    LeavesNoTrace s ∧ Step s (.reply (.graph collectionA ⟨2⟩) none) next ∧ s.view.outcome.status = .ready ∧
      next.view.outcome.status = .error ∧ next.view.interaction.activeNode? = some "a" := by
  let start : Session Float Float32 := mount {} .owned (some "A") ⟨none, ⟨0, 0⟩, false⟩
  have nothing : Run start [] start := .nil
  have loaded := nothing.snoc (.reply (.graph collectionA ⟨1⟩) linkedPair (by decide +kernel))
  have opened := loaded.snoc (.use (m := .toggleSearch) (by decide +kernel))
  have picked := opened.snoc (.use (m := .pick "a") (by decide +kernel))
  have asked := picked.snoc (.use (m := .refresh) (by decide +kernel))
  have fails {events} {s : Session Float Float32} (_ : Run start events s)
      (waiting : .graph collectionA ⟨2⟩ ∈ s.waiting) :
      Step s (.reply (.graph collectionA ⟨2⟩) none) (s.ended (.graph collectionA ⟨2⟩) none) :=
    .reply _ none waiting
  have failed := fails asked (by decide +kernel)
  exact ⟨_, _, failure_leaves_no_trace asked, failed, by decide +kernel, by decide +kernel, by decide +kernel⟩

end Session

end GraphViewer

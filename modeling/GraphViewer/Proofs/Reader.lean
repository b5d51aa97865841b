import GraphViewer.Proofs.Hovering
import GraphViewer.Proofs.Shown
/-
What a reader of the marketplace asks the service for. Only an owner is offered merge suggestions: they are
never asked for here, so the badge and the panel that would lead to an answer never come up. What is left are
the graphs, each asked for when the view comes up, is refreshed or goes on to another route, and no more than
one at a time.
-/

namespace GraphViewer

variable {W N : Type}

/-- The user wants everything read anew, or the route may have changed. -/
def Event.isReading : Event W → Bool
  | .use .refresh | .navigate _ => true
  | _ => false

namespace Session

variable {s next : Session W N} {e : Event W} {config : Config} {route : Option String} {site : Site W}
  {events : List (Event W)}

/-- All requests so far, as they went out. -/
def sent (s : Session W N) : List Sent :=
  s.issued.map fun call => s.view.client.sent (call.request s.view.access)

/-- Beside some calls at most one has started, for the graph of the collection in the route. -/
def Asks (issued : List Call) (s : Session W N) : Prop :=
  s.issued = issued ∨ ∃ collection ticket, s.view.collection? = some collection ∧
    s.issued = issued ++ [.graph collection ticket]

/-- A reader with no suggestions, who has asked for graphs only. -/
structure ReadsGraphs (s : Session W N) : Prop where
  access : s.view.access = .marketplace
  suggestions : s.view.merge.suggestions = none
  graphs : ∀ call ∈ s.issued, ∃ collection ticket, call = .graph collection ticket

theorem asks_refreshed (access : s.view.access = .marketplace) : Asks s.issued s.refreshed := by
  have reader : s.view.access.isOwner = false := by
    rw [access]
    rfl
  cases wanted : s.view.collection? with
  | none =>
    rw [refreshed, View.refresh_of_none wanted]
    exact .inl (List.append_nil _)
  | some collection =>
    rw [refreshed, View.refresh_of_reader wanted reader]
    exact .inr ⟨collection, _, wanted, rfl⟩

theorem asks_entered (access : s.view.access = .marketplace) (route : Option String) :
    Asks s.issued (s.entered route) := by
  let routed : View W N := { s.view with route := route }
  have reader : routed.arrived.access = .marketplace := routed.arrived_books.access.trans access
  exact asks_refreshed (s := { s with view := routed.arrived }) reader

theorem ReadsGraphs.nothing_merging (h : ReadsGraphs s) : s.view.merging? = none := by
  unfold View.merging?
  split
  · exact h.suggestions
  · rfl

variable [Scalar W] [Scalar N] [Narrowing W N]

/-- Whatever happens, at most one graph is asked for, and only if that is what the event is about. -/
theorem ReadsGraphs.asks (h : ReadsGraphs s) (tidy : Tidy s) (effect : Effect s e next) :
    next.issued = s.issued ∨ (e.isReading = true ∧ Asks s.issued next) := by
  cases effect with
  | glances _ => exact .inl rfl
  | refreshes => exact .inr ⟨rfl, asks_refreshed h.access⟩
  | answers offered =>
    obtain ⟨_, _, merging, _⟩ := View.offers_iff.1 offered
    cases h.nothing_merging.symm.trans merging
  | enters _ => exact .inr ⟨rfl, asks_entered h.access _⟩
  | @ends call answer waiting =>
    obtain ⟨collection, ticket, rfl⟩ := h.graphs call (tidy.waiting.subset waiting)
    refine .inl ?_
    show s.issued ++ (s.view.graphReplied collection ticket answer).calls = s.issued
    rw [View.graphReplied_calls, List.append_nil]

theorem ReadsGraphs.effect (h : ReadsGraphs s) (tidy : Tidy s) (effect : Effect s e next) :
    ReadsGraphs next := by
  refine ⟨effect.reader.1.trans h.access, ?_, ?_⟩
  · rcases effect.suggestions tidy with ⟨kept, _⟩ | dropped | ⟨collection, ⟨ticket, answer, _, rfl, _, _⟩, _⟩
    · exact kept.trans h.suggestions
    · exact dropped
    · -- suggestions could only come from a call for them, and there is none
      cases effect with
      | glances glance => exact glance.looks.suggestions.trans h.suggestions
      | ends _ waiting =>
        obtain ⟨_, _, graph⟩ := h.graphs _ (tidy.waiting.subset waiting)
        cases graph
  · intro call issued
    rcases h.asks tidy effect with same | ⟨_, same | ⟨collection, ticket, _, same⟩⟩
    · exact h.graphs call (same ▸ issued)
    · exact h.graphs call (same ▸ issued)
    · rw [same] at issued
      rcases List.mem_append.1 issued with earlier | new
      · exact h.graphs call earlier
      · exact ⟨collection, ticket, List.mem_singleton.1 new⟩

omit [Scalar N] [Narrowing W N] in
theorem asks_mount (config : Config) (route : Option String) (site : Site W) :
    Asks [] (mount (N := N) config .marketplace route site) :=
  asks_entered (s := ⟨View.blank config .marketplace route site, [], []⟩) rfl route

omit [Scalar N] [Narrowing W N] in
theorem readsGraphs_mount (config : Config) (route : Option String) (site : Site W) :
    ReadsGraphs (mount (N := N) config .marketplace route site) := by
  obtain ⟨_, _, _, _, view⟩ := mount_view (N := N) config .marketplace route site
  refine ⟨congrArg View.access view, congrArg (·.merge.suggestions) view, ?_⟩
  intro call issued
  rcases asks_mount (N := N) config route site with nothing | ⟨collection, ticket, _, one⟩
  · rw [nothing] at issued
    cases issued
  · rw [one] at issued
    exact ⟨collection, ticket, List.mem_singleton.1 issued⟩

theorem readsGraphs_run (run : Run (mount config .marketplace route site) events s) : ReadsGraphs s := by
  induction run with
  | nil => exact readsGraphs_mount config route site
  | snoc earlier step ih => exact ih.effect (tidy_run earlier) step.effect

/-! ## Requests -/

/-- The request for a graph of the marketplace, as it goes out. -/
def graphOffer (config : Config) (collection : CollectionId) : Sent :=
  ⟨"GET", (Client.ofConfig config).graphUrl collection .marketplace, none⟩

/-- Beside some requests at most one went out, for the graph of the collection in the route. -/
def Sends (config : Config) (earlier : List Sent) (s : Session W N) : Prop :=
  s.sent = earlier ∨ ∃ collection, s.view.collection? = some collection ∧
    s.sent = earlier ++ [graphOffer config collection]

theorem sent_of_graphs (run : Run (mount config .marketplace route site) events s) :
    s.sent = s.issued.map fun call =>
      (Client.ofConfig config).sent (call.request .marketplace) := by
  obtain ⟨access, client⟩ := reader_run run
  rw [sent, access, client]

theorem Asks.sends {issued : List Call} (asks : Asks issued s)
    (run : Run (mount config .marketplace route site) events s) :
    Sends config (issued.map fun call => (Client.ofConfig config).sent (call.request .marketplace)) s := by
  rw [Sends, sent_of_graphs run]
  rcases asks with same | ⟨collection, ticket, wanted, one⟩
  · exact .inl (same ▸ rfl)
  · refine .inr ⟨collection, wanted, ?_⟩
    rw [one, List.map_append]
    rfl

/-- What a reader of the marketplace gets to see and sends in the course of some events. -/
structure OnlyReads (config : Config) (start : Session W N) (events : List (Event W)) (s : Session W N) :
    Prop where
  /-- Nothing is posted. -/
  gets : ∀ request ∈ s.sent, request.method = "GET"
  /-- Coming up the view asks for the graph of the collection in the route, if that names one. -/
  mounted : Sends config [] start
  /-- Later on that is all it sends, at most once with each refresh and with each change of the route. -/
  sends : ∀ {before e after}, Passes start events before e after →
    after.sent = before.sent ∨ (e.isReading = true ∧ Sends config before.sent after)
  count : s.sent.length ≤ 1 + events.countP Event.isReading
  /-- Merging is not offered. -/
  badge : ¬ s.view.render.Shows Part.badge.className
  panel : ¬ s.view.render.Shows Part.merges.className

theorem sends_step (run : Run (mount config .marketplace route site) events s) (step : Step s e next) :
    next.sent = s.sent ∨ (e.isReading = true ∧ Sends config s.sent next) := by
  have later := run.snoc step
  rcases (readsGraphs_run run).asks (tidy_run run) step.effect with same | ⟨reading, asks⟩
  · rw [sent_of_graphs later, sent_of_graphs run, same]
    exact .inl rfl
  · rw [sent_of_graphs run]
    exact .inr ⟨reading, asks.sends later⟩

omit [Scalar W] [Scalar N] [Narrowing W N] in
theorem Sends.length_le {earlier : List Sent} (sends : Sends config earlier s) :
    s.sent.length ≤ earlier.length + 1 := by
  rcases sends with same | ⟨_, _, one⟩
  · simp [same]
  · simp [one]

theorem sent_length_le (run : Run (mount config .marketplace route site) events s) :
    s.sent.length ≤ 1 + events.countP Event.isReading := by
  induction run with
  | nil => exact ((asks_mount config route site).sends .nil).length_le
  | @snoc earlier s next e run step ih =>
    rw [List.countP_append, List.countP_singleton]
    rcases sends_step run step with same | ⟨reading, sends⟩
    · rw [same]
      omega
    · have one := sends.length_le
      rw [if_pos reading]
      omega

/-- A reader of the marketplace sends nothing but requests for the graph of the collection in the route, at
most one as the view comes up, with each refresh and with each change of the route; and is never shown the
badge or the panel of merge suggestions. -/
theorem marketplace_only_reads (run : Run (mount config .marketplace route site) events s) :
    OnlyReads config (mount config .marketplace route site) events s where
  gets := by
    intro request among
    rw [sent_of_graphs run] at among
    obtain ⟨call, issued, rfl⟩ := List.mem_map.1 among
    obtain ⟨_, _, rfl⟩ := (readsGraphs_run run).graphs call issued
    rfl
  mounted := (asks_mount config route site).sends .nil
  sends := by
    rintro before e after ⟨earlier, later, _, run, step⟩
    exact sends_step run step
  count := sent_length_le run
  badge := by
    rw [View.shows_iff]
    rintro ⟨badge, isBadge⟩
    simp [View.badge?, (readsGraphs_run run).access, Access.isOwner] at isBadge
  panel := by
    rw [View.shows_iff]
    rintro ⟨suggestions, merging⟩
    cases (readsGraphs_run run).nothing_merging.symm.trans merging

/-- The view is refreshed, and goes on to a blank route and then to another collection. -/
theorem marketplace_only_reads_moved : ∃ s : Session Float Float32,
    OnlyReads {} (mount {} .marketplace (some "A") ⟨none, ⟨0, 0⟩, false⟩)
      [.use .refresh, .reply (.graph collectionA ⟨2⟩) oneNode, .navigate (some " "), .use .refresh,
        .navigate (some "B")] s ∧
      s.sent.map Sent.url = ["/api/v1/marketplace/collections/A/graph",
        "/api/v1/marketplace/collections/A/graph", "/api/v1/marketplace/collections/B/graph"] := by
  let start : Session Float Float32 := mount {} .marketplace (some "A") ⟨none, ⟨0, 0⟩, false⟩
  have nothing : Run start [] start := .nil
  have refreshed := nothing.snoc (.use (m := .refresh) (by decide +kernel))
  have loaded := refreshed.snoc (.reply (.graph collectionA ⟨2⟩) oneNode (by decide +kernel))
  have away := loaded.snoc (.navigate (some " "))
  have blank := away.snoc (.use (m := .refresh) (by decide +kernel))
  have moved := blank.snoc (.navigate (some "B"))
  exact ⟨_, marketplace_only_reads moved, by decide +kernel⟩

end Session

end GraphViewer

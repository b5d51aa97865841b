import Mathlib.Order.Bounds.Basic
import GraphViewer.Service.Exchange
/-
What a call to the service comes to. It sends one request, and ends when the reply comes or when the wait is over,
whichever is first; of both at once the reply counts. A call without a reply in time has timed out, one that did not
get through failed on the network, and a status that is no success is a failure with this status, whatever the body
says. Only then does it matter whether the body can be read, if it is read at all.
-/

namespace GraphViewer

/-! ## Waiting -/

namespace Answer

variable {a : Answer} {timeoutMs : Nat}

/-- The reply has come by some time. -/
def CameBy (a : Answer) (now : Nat) : Prop :=
  ∃ d ∈ a.delay, d ≤ now

instance (a : Answer) (now : Nat) : Decidable (a.CameBy now) :=
  inferInstanceAs (Decidable (∃ d ∈ a.delay, d ≤ now))

theorem CameBy.mono {now later : Nat} (came : a.CameBy now) (order : now ≤ later) : a.CameBy later := by
  obtain ⟨d, comes, before⟩ := came
  exact ⟨d, comes, before.trans order⟩

/-- What a call finds at some time after its start, if it looks for the reply first, and only then whether the wait
is over. -/
def look? (a : Answer) (timeoutMs now : Nat) : Option (Option Reply) :=
  if a.CameBy now then some (some a.reply)
  else if timeoutMs ≤ now then some none
  else none

theorem await_of_cameBy {d : Nat} (comes : a.delay = some d) (before : d ≤ timeoutMs) :
    a.await timeoutMs = (d, some a.reply) := by
  simp [await, comes, before]

theorem reply_of_cameBy (a : Answer) (came : a.CameBy timeoutMs) : (a.await timeoutMs).2 = some a.reply := by
  obtain ⟨d, comes, before⟩ := came
  rw [await_of_cameBy comes before]

theorem await_of_late (a : Answer) (late : ¬ a.CameBy timeoutMs) : a.await timeoutMs = (timeoutMs, none) := by
  cases comes : a.delay with
  | none => simp [await, comes]
  | some d =>
    have after : ¬ d ≤ timeoutMs := fun before => late ⟨d, comes, before⟩
    simp [await, comes, after]

/-- The wait is over at the first time at which something is found, and that is what there is of the reply. -/
theorem await_first (a : Answer) (timeoutMs : Nat) :
    a.look? timeoutMs (a.await timeoutMs).1 = some (a.await timeoutMs).2 ∧
      ∀ now < (a.await timeoutMs).1, a.look? timeoutMs now = none := by
  by_cases came : a.CameBy timeoutMs
  · obtain ⟨d, comes, before⟩ := came
    rw [await_of_cameBy comes before]
    refine ⟨if_pos ⟨d, comes, le_rfl⟩, fun now earlier => ?_⟩
    have uncome : ¬ a.CameBy now := by
      rintro ⟨d', comes', reached⟩
      cases comes.symm.trans comes'
      omega
    rw [look?, if_neg uncome, if_neg (by omega)]
  · rw [a.await_of_late came]
    refine ⟨?_, fun now earlier => ?_⟩
    · rw [look?, if_neg came, if_pos le_rfl]
    · rw [look?, if_neg fun reached => came (reached.mono earlier.le), if_neg (not_le.2 earlier)]

/-- Of both at once the reply counts. -/
example : (⟨.unreachable "", some 5⟩ : Answer).await 5 = (5, some (.unreachable "")) := by decide

theorem elapsed_await (a : Answer) (timeoutMs : Nat) :
    (a.await timeoutMs).1 = a.delay.elim timeoutMs (min · timeoutMs) := by
  cases comes : a.delay with
  | none => simp [await, comes]
  | some d =>
    rcases le_or_gt d timeoutMs with before | after
    · simp [await_of_cameBy comes before, before]
    · simp [await, comes, after.le, not_le.2 after]

end Answer

/-! ## Calls -/

/-- The statuses that stand for success. -/
theorem isOk_iff (code : Nat) : isOk code = true ↔ code ∈ Set.Icc 200 299 := by
  simp [isOk, Set.mem_Icc]

namespace Client

variable {α : Type}

/-- What a call comes to that gets an answer and reads the body of a successful reply in some way. -/
inductive Ends (c : Client) (r : Request) (read : String → Except Json.Fault α) (a : Answer) :
    Except Failure α → Prop where
  | late : ¬ a.CameBy c.timeoutMs → Ends c r read a (.error (.timeout c.timeoutMs))
  | lost {reason : String} : a.CameBy c.timeoutMs → a.reply = .unreachable reason →
      Ends c r read a (.error (.network reason))
  | refused {code : Nat} {body : String} : a.CameBy c.timeoutMs → a.reply = .response code body →
      code ∉ Set.Icc 200 299 → Ends c r read a (.error (.status code (c.url r)))
  | misread {code : Nat} {body : String} {fault : Json.Fault} : a.CameBy c.timeoutMs →
      a.reply = .response code body → code ∈ Set.Icc 200 299 → read body = .error fault →
      Ends c r read a (.error (.decode fault))
  | read {code : Nat} {body : String} {v : α} : a.CameBy c.timeoutMs → a.reply = .response code body →
      code ∈ Set.Icc 200 299 → read body = .ok v → Ends c r read a (.ok v)

variable {c : Client} {r : Request} {read : String → Except Json.Fault α} {a : Answer}

theorem readBody_refused {code : Nat} (refused : code ∉ Set.Icc 200 299) (body : String) :
    c.readBody r read (some (.response code body)) = .error (.status code (c.url r)) := by
  have none : isOk code = false := Bool.eq_false_iff.2 (mt (isOk_iff code).1 refused)
  simp only [readBody, Client.body, none]
  rfl

theorem readBody_ok {code : Nat} (ok : code ∈ Set.Icc 200 299) (body : String) :
    c.readBody r read (some (.response code body)) = (read body).mapError .decode := by
  simp only [readBody, Client.body, (isOk_iff code).2 ok]
  rfl

/-- What a call comes to is what it makes of the reply that it waited for. -/
theorem ends_iff {x : Except Failure α} : c.Ends r read a x ↔ c.readBody r read (a.await c.timeoutMs).2 = x := by
  constructor
  · intro ends
    cases ends with
    | late late =>
      rw [a.await_of_late late]
      rfl
    | lost came reply =>
      rw [a.reply_of_cameBy came, reply]
      rfl
    | refused came reply refused => rw [a.reply_of_cameBy came, reply, readBody_refused refused]
    | misread came reply ok told =>
      rw [a.reply_of_cameBy came, reply, readBody_ok ok, told]
      rfl
    | read came reply ok told =>
      rw [a.reply_of_cameBy came, reply, readBody_ok ok, told]
      rfl
  · rintro rfl
    by_cases came : a.CameBy c.timeoutMs
    · rw [a.reply_of_cameBy came]
      cases reply : a.reply with
      | unreachable reason => exact .lost came reply
      | response code body =>
        by_cases ok : code ∈ Set.Icc 200 299
        · rw [readBody_ok ok]
          cases told : read body with
          | error fault => exact .misread came reply ok told
          | ok v => exact .read came reply ok told
        · rw [readBody_refused ok]
          exact .refused came reply ok
    · rw [a.await_of_late came]
      exact .late came

/-- How a call ends that sends one request, gets an answer and reads the body of a successful reply in some way. -/
structure Settles (c : Client) (r : Request) (read : String → Except Json.Fault α) (a : Answer)
    (x : Exchange (Except Failure α)) : Prop where
  sent : x.sent = [r]
  elapsed : x.elapsed = a.delay.elim c.timeoutMs (min · c.timeoutMs)
  /-- It ends at the first time at which it finds the reply or the end of its wait, and looks for the reply first. -/
  first : IsLeast {now | a.look? c.timeoutMs now ≠ none} x.elapsed
  timeout : ∀ ms, x.result = .error (.timeout ms) ↔ ¬ a.CameBy c.timeoutMs ∧ ms = c.timeoutMs
  network : ∀ reason, x.result = .error (.network reason) ↔
    a.CameBy c.timeoutMs ∧ a.reply = .unreachable reason
  status : ∀ code url, x.result = .error (.status code url) ↔
    a.CameBy c.timeoutMs ∧ ∃ body, a.reply = .response code body ∧ code ∉ Set.Icc 200 299 ∧ url = c.url r
  decode : ∀ fault, x.result = .error (.decode fault) ↔
    a.CameBy c.timeoutMs ∧ ∃ code body, a.reply = .response code body ∧ code ∈ Set.Icc 200 299 ∧
      read body = .error fault
  ok : ∀ v, x.result = .ok v ↔
    a.CameBy c.timeoutMs ∧ ∃ code body, a.reply = .response code body ∧ code ∈ Set.Icc 200 299 ∧ read body = .ok v

theorem settles_of_result {x : Exchange (Except Failure α)} (sent : x.sent = [r])
    (elapsed : x.elapsed = (a.await c.timeoutMs).1)
    (result : x.result = c.readBody r read (a.await c.timeoutMs).2) : c.Settles r read a x where
  sent := sent
  elapsed := elapsed.trans (a.elapsed_await c.timeoutMs)
  first := by
    obtain ⟨found, before⟩ := a.await_first c.timeoutMs
    rw [elapsed]
    exact ⟨by simp [found], fun now finds => not_lt.1 fun earlier => finds (before now earlier)⟩
  timeout ms := by
    rw [result, ← ends_iff]
    exact ⟨fun | .late late => ⟨late, rfl⟩, fun ⟨late, same⟩ => same ▸ .late late⟩
  network reason := by
    rw [result, ← ends_iff]
    exact ⟨fun | .lost came reply => ⟨came, reply⟩, fun ⟨came, reply⟩ => .lost came reply⟩
  status code url := by
    rw [result, ← ends_iff]
    exact ⟨fun | .refused came reply refused => ⟨came, _, reply, refused, rfl⟩,
      fun ⟨came, _, reply, refused, same⟩ => same ▸ .refused came reply refused⟩
  decode fault := by
    rw [result, ← ends_iff]
    exact ⟨fun | .misread came reply ok told => ⟨came, _, _, reply, ok, told⟩,
      fun ⟨came, _, _, reply, ok, told⟩ => .misread came reply ok told⟩
  ok v := by
    rw [result, ← ends_iff]
    exact ⟨fun | .read came reply ok told => ⟨came, _, _, reply, ok, told⟩,
      fun ⟨came, _, _, reply, ok, told⟩ => .read came reply ok told⟩

theorem readBody_map {β : Type} (c : Client) (r : Request) (read : String → Except Json.Fault α) (f : α → β)
    (reply : Option Reply) :
    c.readBody r (fun body => (read body).map f) reply = (c.readBody r read reply).map f := by
  simp only [readBody]
  cases c.body r reply with
  | error failure => rfl
  | ok body =>
    show ((read body).map f).mapError Failure.decode = ((read body).mapError Failure.decode).map f
    cases read body <;> rfl

/-- A call that has nothing to read from the body comes to the same whatever it says. -/
theorem readBody_unit (c : Client) (r : Request) (reply : Option Reply) :
    c.readBody r (fun _ => .ok ()) reply = (c.body r reply).map fun _ => () := by
  simp only [readBody]
  cases c.body r reply <;> rfl

theorem graph_result (c : Client) (collection : CollectionId) (access : Access) (reply : Option Reply) :
    (c.graph collection access reply).1 =
      c.readBody (.graph collection access) (fun body => (Payload.read body).map Loaded.ofPayload) reply := by
  rw [readBody_map, graph]
  cases c.readBody (.graph collection access) Payload.read reply <;> rfl

end Client

/-- The line of the log that tells of a graph. -/
def Notice.tellsGraph : Notice → Bool
  | .graphLoaded _ _ _ => true
  | _ => false

namespace Client

theorem waitNotices_filter (c : Client) (reply : Option Reply) :
    (c.waitNotices reply).filter Notice.tellsGraph = [] := by
  cases reply <;> rfl

theorem graph_notices (c : Client) (collection : CollectionId) (access : Access) (reply : Option Reply) :
    (c.graph collection access reply).2.filter Notice.tellsGraph =
      ((c.graph collection access reply).1.toOption.map fun l =>
        .graphLoaded collection l.snapshot.nodes.length l.snapshot.edges.length).toList := by
  rw [graph]
  cases c.readBody (.graph collection access) Payload.read reply with
  | error failure => exact c.waitNotices_filter reply
  | ok payload =>
    dsimp only
    rw [List.filter_append, List.filter_append, waitNotices_filter]
    unfold Loaded.notices
    split <;> rfl

/-- The calls of a client, whatever the answer is. -/
structure CallsSettle (c : Client) (collection : CollectionId) (a : Answer) : Prop where
  /-- A call for a graph lays out what the body says, -/
  graph : ∀ access, c.Settles (.graph collection access)
    (fun body => (Payload.read body).map Loaded.ofPayload) a (c.loadGraph collection access a)
  /-- and logs it just if there is one. -/
  logged : ∀ access, (c.loadGraph collection access a).notices.filter Notice.tellsGraph =
    ((c.loadGraph collection access a).result.toOption.map fun l =>
      .graphLoaded collection l.snapshot.nodes.length l.snapshot.edges.length).toList
  /-- An owner asks for suggestions, -/
  suggestions : ∃ x, c.Settles (.suggestions collection) Suggestions.read a x ∧
    c.loadSuggestions collection .owned a = ⟨x.sent, x.elapsed, some x.result, x.notices⟩
  /-- and others do not. -/
  skipped : c.loadSuggestions collection .marketplace a = ⟨[], 0, none, []⟩
  /-- Whatever the body says, an answer to a suggestion was passed on. -/
  action : ∀ suggestion answer, c.Settles (.action collection suggestion answer) (fun _ => .ok ()) a
    (c.sendAction collection suggestion answer a)
  /-- With a status that is no success it makes no difference how the body would be read. -/
  unread : ∀ r, ∀ code ∉ Set.Icc 200 299, ∀ body {α : Type} (read : String → Except Json.Fault α),
    c.readBody r read (some (.response code body)) = .error (.status code (c.url r))

theorem calls_settle (c : Client) (collection : CollectionId) (a : Answer) : c.CallsSettle collection a where
  graph access := settles_of_result rfl rfl (c.graph_result collection access _)
  logged access := c.graph_notices collection access _
  suggestions := by
    let reply := (a.await c.timeoutMs).2
    let result := c.suggestions collection reply
    exact ⟨⟨[.suggestions collection], (a.await c.timeoutMs).1, result.1, result.2⟩,
      settles_of_result rfl rfl rfl, rfl⟩
  skipped := rfl
  action suggestion answer := settles_of_result rfl rfl (c.readBody_unit _ _).symm
  unread _ _ refused body _ _ := readBody_refused refused body

end Client

end GraphViewer

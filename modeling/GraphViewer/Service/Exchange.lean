import GraphViewer.Graph.Payload
import GraphViewer.Notice
/-
Calls to the service. Each call sends at most one request and waits for the reply, but not for longer than
the client's timeout; a reply that comes exactly at the timeout is in time. What the viewer makes of a
reply does not depend on when it came.
-/

namespace GraphViewer

/-- What a request gets from the service or from the network. -/
inductive Reply where
  | response (status : Nat) (body : String)
  | unreachable (reason : String)
  deriving DecidableEq, Repr

/-- A reply and the time it takes, in milliseconds; without a time it never comes. -/
structure Answer where
  reply : Reply
  delay : Option Nat
  deriving DecidableEq, Repr

/-- How long a call waits and what it gets: nothing if it gives up. -/
def Answer.await (a : Answer) (timeoutMs : Nat) : Nat × Option Reply :=
  match a.delay with
  | some d => if d ≤ timeoutMs then (d, some a.reply) else (timeoutMs, none)
  | none => (timeoutMs, none)

/-- A status that stands for success. -/
def isOk (status : Nat) : Bool :=
  200 ≤ status && status ≤ 299

namespace Client

/-- The body of a successful reply. -/
def body (c : Client) (r : Request) : Option Reply → Except Failure String
  | none => .error (.timeout c.timeoutMs)
  | some (.unreachable reason) => .error (.network reason)
  | some (.response status body) =>
    if isOk status then .ok body else .error (.status status (c.url r))

/-- What the body of a successful reply says. -/
def readBody (c : Client) (r : Request) (read : String → Except Json.Fault α) (reply : Option Reply) :
    Except Failure α := do
  (read (← c.body r reply)).mapError .decode

/-- The log of a wait. -/
def waitNotices (c : Client) : Option Reply → List Notice
  | none => [.requestAbandoned c.timeoutMs]
  | some _ => []

end Client

/-! ## The three calls, by their reply -/

/-- The log of making a snapshot. -/
def Loaded.notices (l : Loaded) : List Notice :=
  if l.snapshot.danglingCount = 0 then [] else [.danglingEdges l.snapshot.danglingCount]

/-- The graph of a collection. -/
def Client.graph (c : Client) (collection : CollectionId) (access : Access) (reply : Option Reply) :
    Except Failure Loaded × List Notice :=
  match c.readBody (.graph collection access) Payload.read reply with
  | .error failure => (.error failure, c.waitNotices reply)
  | .ok payload =>
    let l := Loaded.ofPayload payload
    (.ok l, c.waitNotices reply ++ l.notices ++
      [.graphLoaded collection l.snapshot.nodes.length l.snapshot.edges.length])

/-- The merge suggestions of a collection. -/
def Client.suggestions (c : Client) (collection : CollectionId) (reply : Option Reply) :
    Except Failure Suggestions × List Notice :=
  (c.readBody (.suggestions collection) Suggestions.read reply, c.waitNotices reply)

/-- The end of passing on an answer to a suggestion; whatever the body says is ignored. -/
def Client.action (c : Client) (collection : CollectionId) (suggestion : String) (action : MergeAction)
    (reply : Option Reply) : Except Failure Unit × List Notice :=
  ((c.body (.action collection suggestion action) reply).map fun _ => (), c.waitNotices reply)

/-! ## Whole calls -/

/-- A call from its start to its end. -/
structure Exchange (α : Type) where
  sent : List Request
  elapsed : Nat
  result : α
  notices : List Notice

/-- Sends one request and looks at the reply. -/
def Client.exchange (c : Client) (r : Request) (answer : Answer)
    (look : Option Reply → α × List Notice) : Exchange α :=
  let (elapsed, reply) := answer.await c.timeoutMs
  let (result, notices) := look reply
  ⟨[r], elapsed, result, notices⟩

def Client.loadGraph (c : Client) (collection : CollectionId) (access : Access) (answer : Answer) :
    Exchange (Except Failure Loaded) :=
  c.exchange (.graph collection access) answer (c.graph collection access)

/-- Merging is offered to owners only: other readers get nothing, and no request is made. -/
def Client.loadSuggestions (c : Client) (collection : CollectionId) (access : Access) (answer : Answer) :
    Exchange (Option (Except Failure Suggestions)) :=
  if access.isOwner then
    c.exchange (.suggestions collection) answer fun reply =>
      let (result, notices) := c.suggestions collection reply
      (some result, notices)
  else ⟨[], 0, none, []⟩

def Client.sendAction (c : Client) (collection : CollectionId) (suggestion : String)
    (action : MergeAction) (answer : Answer) : Exchange (Except Failure Unit) :=
  c.exchange (.action collection suggestion action) answer (c.action collection suggestion action)

end GraphViewer

import GraphViewer.Service.Failure
import GraphViewer.Graph.Snapshot
/-
How the latest load of a graph ended, and what the page shows of that.
-/

namespace GraphViewer

inductive Outcome where
  | pending
  | loaded (snapshot : Snapshot)
  | failed (failure : Failure)
  deriving Repr

inductive Status where
  | pending
  | noNodes
  | ready
  | error
  deriving DecidableEq, Repr

def Outcome.status : Outcome → Status
  | .pending => .pending
  | .loaded s => if s.isEmpty then .noNodes else .ready
  | .failed _ => .error

def Outcome.snapshot? : Outcome → Option Snapshot
  | .loaded s => some s
  | _ => none

/-- The outcome of a call. -/
def Outcome.ofResult : Except Failure Snapshot → Outcome
  | .ok s => .loaded s
  | .error failure => .failed failure

def Status.name : Status → String
  | .pending => "Pending"
  | .noNodes => "NoNodes"
  | .ready => "Ready"
  | .error => "Error"

end GraphViewer

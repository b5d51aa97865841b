import GraphViewer.Json.Fault
/-
Why a request to the service fails.
-/

namespace GraphViewer

inductive Failure where
  | network (reason : String)
  | status (code : Nat) (url : String)
  | decode (cause : Json.Fault)
  | timeout (ms : Nat)
  deriving Repr

def Failure.message : Failure → String
  | .network reason => "network error: " ++ reason
  | .status code url => "request to " ++ url ++ " failed with status " ++ toString code
  | .decode cause => "unexpected response body: " ++ cause.message
  | .timeout ms => "request timed out after " ++ toString ms ++ "ms"

end GraphViewer

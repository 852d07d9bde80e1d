namespace OrgFederation

/-- A failure of the cluster: an answer with a code, or any other failure to get an answer. -/
inductive ClusterError where
  | api (code : Nat)
  | other
  deriving DecidableEq, Repr

inductive OperatorError where
  | cluster (cause : ClusterError)
  | validation (resource message : String)
  | serialization (message : String)
  | connection (resource message : String)
  | internal (context message : String)
  deriving DecidableEq, Repr

namespace OperatorError

/-- The resource or the context of an error that has none of its own. -/
def unnamed : String := "unknown"

/-- A request that the cluster refuses stays refused, except for a conflict. -/
def isRetryable : OperatorError → Bool
  | .cluster (.api code) => !(400 ≤ code && code < 500 && code != 409)
  | .cluster .other => true
  | .validation _ _ => false
  | .serialization _ => false
  | .connection _ _ => true
  | .internal _ _ => true

def resource? : OperatorError → Option String
  | .validation resource _ => some resource
  | .connection resource _ => some resource
  | _ => none

/-- The wording of an error; the cluster words its own. -/
def message? : OperatorError → Option String
  | .cluster _ => none
  | .validation resource message => some ("validation error for " ++ resource ++ ": " ++ message)
  | .serialization message => some ("serialization error: " ++ message)
  | .connection resource message => some ("connection error for " ++ resource ++ ": " ++ message)
  | .internal context message => some ("internal error [" ++ context ++ "]: " ++ message)

end OperatorError

end OrgFederation

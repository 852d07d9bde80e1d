namespace OrgFederation

/-- Why a call failed: the entity does not exist, the service answered with an error status, no
answer came, the answer could not be decoded, or the pass was cancelled before the call ended. -/
inductive CallError where
  | notFound (detail : String)
  | status (code : Nat) (errorCode : String) (detail : String)
  | transport (detail : String)
  | decode (detail : String)
  | cancelled
  deriving DecidableEq, Repr

namespace CallError

/-- The error codes that say that an entity does not exist. -/
def notFoundCodes : List String :=
  ["NOT_IN_GROUP", "GROUP_NAME_NOT_FOUND", "GROUP_NOT_FOUND", "RESOURCE_NOT_FOUND"]

/-- The failure of an error answer. A missing entity is told by its detail, or by the code when
there is no detail. -/
def ofResponse (code : Nat) (errorCode detail : String) : CallError :=
  if code = 404 ∨ errorCode ∈ notFoundCodes then
    .notFound (if detail.isEmpty then errorCode else detail)
  else
    .status code errorCode detail

def isNotFound : CallError → Bool
  | .notFound _ => true
  | _ => false

def message : CallError → String
  | .notFound detail => "not found: " ++ detail
  | .status code errorCode detail =>
      "management API returned " ++ toString code ++ " " ++ errorCode ++ ": " ++ detail
  | .transport detail => "transport error: " ++ detail
  | .decode detail => "failed to decode response: " ++ detail
  | .cancelled => "request cancelled"

end CallError

end OrgFederation

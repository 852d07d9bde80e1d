import OrgFederation.Management.CallError
import OrgFederation.Outcome

namespace OrgFederation

/-- Why a project name has no id. -/
inductive LookupError where
  | emptyName
  | notFound (name orgId : String)
  | api (name : String) (source : CallError)
  deriving DecidableEq, Repr

def LookupError.message : LookupError → String
  | .emptyName => "project name is empty"
  | .notFound name org => "project " ++ name ++ " not found in organization " ++ org
  | .api name source => "failed to look up project " ++ name ++ ": " ++ source.message

/-- The first role assignment whose project has no id, and the mapping that it is in. -/
structure MappingError where
  externalGroup : String
  project : String
  source : LookupError
  deriving DecidableEq, Repr

def MappingError.message (failure : MappingError) : String :=
  "role mapping " ++ failure.externalGroup ++ ": " ++ failure.source.message

/-- The step at which a pass stopped. -/
inductive PassError where
  | notAvailable (cause : CallError)
  | orgNotConnected (cause : CallError)
  | noIdentityProvider (orgId : String)
  | mapping (cause : MappingError)
  | identityProvider (cause : CallError)
  | update (cause : CallError)
  | usersConflict (addresses : List String)
  | cancelled
  deriving DecidableEq, Repr

namespace PassError

/-- A failed call is the failure of its step, except that a cancelled call is a cancelled pass. -/
def ofApi (step : CallError → PassError) : CallError → PassError
  | .cancelled => .cancelled
  | cause => step cause

def message : PassError → String
  | .notAvailable cause => cause.message
  | .orgNotConnected cause => cause.message
  | .noIdentityProvider org => "organization " ++ org ++ " is not linked to an identity provider"
  | .mapping cause => "can not convert federated auth spec: " ++ cause.message
  | .identityProvider cause =>
      "can not reconcile identity provider settings: " ++ cause.message
  | .update cause => "can not update federation settings: " ++ cause.message
  | .usersConflict addresses =>
      "the following users are in conflict: " ++ ", ".intercalate addresses
  | .cancelled => "reconcile cancelled"

def reason : PassError → FailureReason
  | .notAvailable _ => .federatedAuthNotAvailable
  | .orgNotConnected _ | .noIdentityProvider _ => .federatedAuthOrgNotConnected
  | .usersConflict _ => .federatedAuthUsersConflict
  | .mapping _ | .identityProvider _ | .update _ | .cancelled => .internal

def outcome (failure : PassError) : Outcome :=
  .failed failure.reason failure.message

end PassError

end OrgFederation

import OrgFederation.OperatorError
import OrgFederation.Outcome
import OrgFederation.Resource.FederatedAuth

namespace OrgFederation

/-- A resource is looked at again after some seconds, or only when it changes. -/
inductive Action where
  | requeue (seconds : Nat)
  | awaitChange
  deriving DecidableEq, Repr

/-- The seconds until the next look at a converged resource and at one that failed. -/
structure Intervals where
  resync : Nat
  retry : Nat
  deriving DecidableEq, Repr

namespace Intervals

def standard : Intervals := ⟨300, 30⟩

/-- The action after a pass. -/
def actionFor (intervals : Intervals) : FollowUp → Action
  | .resync => .requeue intervals.resync
  | .retry => .requeue intervals.retry
  | .awaitChange => .awaitChange

/-- The action after an error of the operator. An error that only a change of the resource can clear
is not tried again. -/
def actionAfter (intervals : Intervals) (error : OperatorError) : Action :=
  if error.isRetryable then .requeue intervals.retry else .awaitChange

end Intervals

namespace FederatedAuth

/-- The status that records an outcome on top of the current one. -/
def statusAfter (resource : FederatedAuth) (outcome : Outcome) (now : Timestamp) : Status :=
  (((resource.status.getD .empty).atGeneration resource.metadata.generation).record
    (outcome.condition .ready now)).record (outcome.condition .federatedAuthReady now)

end FederatedAuth

/-- A status to be written to the resource of a name in a namespace. -/
structure StatusPatch where
  namespaceName : String
  name : String
  status : Status
  deriving DecidableEq, Repr

namespace StatusPatch

/-- Only the status is written, whatever else the resource holds. -/
def body (patch : StatusPatch) : Json :=
  .object [("status", Status.codec.encode patch.status)]

end StatusPatch

end OrgFederation

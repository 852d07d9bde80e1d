import OrgFederation.Resource.Condition
import OrgFederation.Text.Blank

namespace OrgFederation

/-- The stable reasons for which a pass fails. -/
inductive FailureReason where
  | federatedAuthNotAvailable
  | federatedAuthOrgNotConnected
  | federatedAuthUsersConflict
  | connectionSecretInvalid
  | internal
  deriving DecidableEq, Repr

namespace FailureReason

def name : FailureReason → String
  | .federatedAuthNotAvailable => "FederatedAuthNotAvailable"
  | .federatedAuthOrgNotConnected => "FederatedAuthOrgNotConnected"
  | .federatedAuthUsersConflict => "FederatedAuthUsersConflict"
  | .connectionSecretInvalid => "ConnectionSecretInvalid"
  | .internal => "Internal"

/-- The reasons in order of declaration. -/
def all : List FailureReason :=
  [.federatedAuthNotAvailable, .federatedAuthOrgNotConnected, .federatedAuthUsersConflict,
    .connectionSecretInvalid, .internal]

def codec : Json.Codec FailureReason :=
  .choice (all.map fun reason => (reason.name, reason)) name

/-- Two reasons clear only when someone changes the organization itself. -/
def isRetryable : FailureReason → Bool
  | .federatedAuthNotAvailable | .federatedAuthUsersConflict => false
  | _ => true

end FailureReason

/-- What follows a pass: another look after a while, a retry soon, or nothing before a change. -/
inductive FollowUp where
  | resync
  | retry
  | awaitChange
  deriving DecidableEq, Repr

/-- A pass settles everything or has nothing to do, perhaps for a stated reason, or it fails. -/
inductive Outcome where
  | settled (message : Option String)
  | failed (reason : FailureReason) (message : String)
  deriving DecidableEq, Repr

namespace Outcome

def isSettled : Outcome → Bool
  | .settled _ => true
  | .failed _ _ => false

def reason? : Outcome → Option FailureReason
  | .settled _ => none
  | .failed reason _ => some reason

def message : Outcome → String
  | .settled message => message.getD ""
  | .failed _ message => message

/-- The outcome on one line. -/
def text : Outcome → String
  | .settled none => "ok"
  | .settled (some message) => "ok: " ++ message
  | .failed reason message => reason.name ++ ": " ++ message

/-- Only the reason decides whether a failed pass is tried again. -/
def followUp : Outcome → FollowUp
  | .settled _ => .resync
  | .failed reason _ => if reason.isRetryable then .retry else .awaitChange

/-- The condition that records an outcome at a time. The message of a failure is trimmed. -/
def condition (outcome : Outcome) (type : ConditionType) (now : Timestamp) : Condition :=
  match outcome with
  | .settled message => ⟨type, .yes, "", message.getD "", now⟩
  | .failed reason message => ⟨type, .no, reason.name, Text.trim message, now⟩

end Outcome

end OrgFederation

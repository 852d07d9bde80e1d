import OrgFederation.Time.Codec

namespace OrgFederation

/-- The aspects on which a resource reports. -/
inductive ConditionType where
  | ready
  | federatedAuthReady
  deriving DecidableEq, Repr

def ConditionType.name : ConditionType → String
  | .ready => "Ready"
  | .federatedAuthReady => "FederatedAuthReady"

def ConditionType.codec : Json.Codec ConditionType :=
  .choice [("Ready", .ready), ("FederatedAuthReady", .federatedAuthReady)] ConditionType.name

/-- Whether a condition holds. -/
inductive ConditionStatus where
  | yes
  | no
  | unknown
  deriving DecidableEq, Repr

def ConditionStatus.name : ConditionStatus → String
  | .yes => "True"
  | .no => "False"
  | .unknown => "Unknown"

def ConditionStatus.codec : Json.Codec ConditionStatus :=
  .choice [("True", .yes), ("False", .no), ("Unknown", .unknown)] ConditionStatus.name

/-- A condition keeps the time at which its status last changed. -/
structure Condition where
  type : ConditionType
  status : ConditionStatus
  reason : String
  message : String
  lastTransitionTime : Timestamp
  deriving DecidableEq, Repr

namespace Condition

def holds (condition : Condition) : Bool :=
  condition.status == .yes

/-- A condition that replaces one of the same status keeps the time of that one. -/
def succeeding (condition held : Condition) : Condition :=
  if held.status = condition.status then
    { condition with lastTransitionTime := held.lastTransitionTime }
  else
    condition

abbrev Parts := ConditionType × ConditionStatus × String × String × Timestamp × Unit

def fields : Json.Fields Parts :=
  .cons (.required "type" ConditionType.codec) <|
  .cons (.required "status" ConditionStatus.codec) <|
  .cons (.elided "reason" .text "") <|
  .cons (.elided "message" .text "") <|
  .cons (.required "lastTransitionTime" Timestamp.codec) .nil

def ofParts : Parts → Condition
  | (type, status, reason, message, time, ()) =>
      ⟨type, status, reason, message, time⟩

def parts (condition : Condition) : Parts :=
  (condition.type, condition.status, condition.reason, condition.message,
  condition.lastTransitionTime, ())

def codec : Json.Codec Condition :=
  fields.codec "Condition" ofParts parts

end Condition

end OrgFederation

import OrgFederation.Outcome
import OrgFederation.Resource.FederatedAuth
import OrgFederation.Reconciliation.Basic

namespace OrgFederation

/-- What a condition says, whatever its type and its time. -/
structure Verdict where
  status : ConditionStatus
  reason : String
  message : String
  deriving DecidableEq, Repr

def Condition.verdict (condition : Condition) : Verdict :=
  ⟨condition.status, condition.reason, condition.message⟩

/-- A condition says the same whichever one it succeeds. -/
@[simp] theorem Condition.succeeding_verdict (condition held : Condition) :
    (condition.succeeding held).verdict = condition.verdict := by
  rw [succeeding]
  split <;> rfl

@[simp] theorem Condition.succeeding_type (condition held : Condition) :
    (condition.succeeding held).type = condition.type := by
  rw [succeeding]
  split <;> rfl

/-- The verdict by which an outcome is recorded. -/
def Outcome.verdict : Outcome → Verdict
  | .settled message => ⟨.yes, "", message.getD ""⟩
  | .failed reason message => ⟨.no, reason.name, Text.trim message⟩

@[simp] theorem Outcome.condition_verdict (outcome : Outcome) (type : ConditionType)
    (now : Timestamp) : (outcome.condition type now).verdict = outcome.verdict := by
  cases outcome <;> rfl

@[simp] theorem Outcome.condition_type (outcome : Outcome) (type : ConditionType)
    (now : Timestamp) : (outcome.condition type now).type = type := by
  cases outcome <;> rfl

namespace Status

/-- The verdict of the first condition of a type. -/
def verdict? (status : Status) (type : ConditionType) : Option Verdict :=
  (status.condition? type).map Condition.verdict

/-- A condition that is recorded is the first of its type from then on. -/
@[simp] theorem record_verdict_self (status : Status) (condition : Condition) :
    (status.record condition).verdict? condition.type = some condition.verdict := by
  rw [verdict?, condition?, record]
  induction status.conditions with
  | nil => simp [recordIn]
  | cons held rest ih =>
      rw [recordIn]
      by_cases same : held.type = condition.type
      · simp [same]
      · simpa [same] using ih

/-- Recording a condition leaves the other types as they are. -/
theorem record_condition_other (status : Status) {condition : Condition} {type : ConditionType}
    (other : condition.type ≠ type) :
    (status.record condition).condition? type = status.condition? type := by
  rw [condition?, condition?, record]
  induction status.conditions with
  | nil => simp [recordIn, other]
  | cons held rest ih =>
      rw [recordIn]
      by_cases same : held.type = condition.type
      · simp [same, other]
      · rw [if_neg same, List.find?_cons, List.find?_cons]
        split
        · rfl
        · exact ih

/-- An outcome that is recorded gives the verdict on its type from then on. -/
theorem record_outcome_verdict (status : Status) (outcome : Outcome) (type : ConditionType)
    (now : Timestamp) :
    (status.record (outcome.condition type now)).verdict? type = some outcome.verdict := by
  simpa using status.record_verdict_self (outcome.condition type now)

/-- Recording what a status says already leaves it as it is, whenever it is recorded. -/
theorem record_of_verdict {status : Status} {condition : Condition}
    (said : status.verdict? condition.type = some condition.verdict) :
    status.record condition = status := by
  have succeeds {held : Condition} (sameType : held.type = condition.type)
      (same : held.verdict = condition.verdict) : condition.succeeding held = held := by
    obtain ⟨sameStatus, sameReason, sameMessage⟩ := Verdict.mk.inj same
    rw [Condition.succeeding, if_pos sameStatus]
    rcases held with ⟨type, status, reason, message, time⟩
    simp only at sameType sameStatus sameReason sameMessage
    rw [sameType, sameStatus, sameReason, sameMessage]
  have kept (conditions : List Condition)
      (found : (conditions.find? fun held => held.type = condition.type).map Condition.verdict =
        some condition.verdict) : recordIn condition conditions = conditions := by
    induction conditions with
    | nil => simp at found
    | cons held rest ih =>
        rw [recordIn]
        by_cases same : held.type = condition.type
        · rw [if_pos same, succeeds same (by simpa [same] using found)]
        · rw [if_neg same, ih (by simpa [same] using found)]
  rw [record, kept status.conditions said]

/-- A status gives one verdict on both aspects, for a generation. -/
structure Records (status : Status) (generation : Option Int) (verdict : Verdict) : Prop where
  generation : status.observedGeneration = generation
  ready : status.verdict? .ready = some verdict
  federatedAuthReady : status.verdict? .federatedAuthReady = some verdict

end Status

/-- The status behind an outcome records its verdict, whatever the status was before. -/
theorem FederatedAuth.statusAfter_records (resource : FederatedAuth) (outcome : Outcome)
    (now : Timestamp) :
    (resource.statusAfter outcome now).Records resource.metadata.generation outcome.verdict := by
  refine ⟨rfl, ?_, ?_⟩
  · rw [statusAfter, Status.verdict?, Status.record_condition_other _ (by simp)]
    exact Status.record_outcome_verdict _ outcome .ready now
  · exact Status.record_outcome_verdict _ outcome .federatedAuthReady now

/-- An outcome whose verdict is recorded for the generation leaves the status as it is, whenever it
comes again. -/
theorem FederatedAuth.statusAfter_of_records {resource : FederatedAuth} {status : Status}
    {outcome : Outcome} (stored : resource.status = some status)
    (records : status.Records resource.metadata.generation outcome.verdict) (now : Timestamp) :
    resource.statusAfter outcome now = status := by
  have generation : status.atGeneration resource.metadata.generation = status := by
    rw [Status.atGeneration, ← records.generation]
  have recorded {type : ConditionType} (said : status.verdict? type = some outcome.verdict) :
      status.record (outcome.condition type now) = status :=
    Status.record_of_verdict (by simpa using said)
  rw [statusAfter, stored, Option.getD_some, generation, recorded records.ready,
    recorded records.federatedAuthReady]

end OrgFederation

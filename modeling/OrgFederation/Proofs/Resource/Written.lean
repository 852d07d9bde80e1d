import OrgFederation.Proofs.Json.RoundTrip
import OrgFederation.Proofs.Json.Yields
import OrgFederation.Proofs.Time.Written
import OrgFederation.Reconciliation.Basic

namespace OrgFederation

open Json (Codec Rendition)

namespace Timestamp

theorem codec_survives {time : Timestamp} (valid : time.Valid) : codec.Survives .exact 0 time := by
  rintro depth node - rfl
  simp [codec, Json.Node.ofJson, ofText_text valid]

theorem codec_yields : codec.Yields Valid := by
  intro depth node time decodes
  simp only [codec] at decodes
  split at decodes
  · split at decodes
    · next read =>
        cases decodes
        exact valid_of_ofText read
    · cases decodes
  · cases decodes

end Timestamp

theorem ConditionType.codec_survives (type : ConditionType) : codec.Survives .exact 0 type :=
  Codec.choice_survives (by cases type <;> rfl)

theorem ConditionStatus.codec_survives (status : ConditionStatus) :
    codec.Survives .exact 0 status :=
  Codec.choice_survives (by cases status <;> rfl)

namespace Condition

/-- A condition is dated when its time lies within the calendar. -/
def Dated (condition : Condition) : Prop :=
  condition.lastTransitionTime.Valid

theorem codec_survives {condition : Condition} (dated : condition.Dated) :
    codec.Survives .exact 1 condition :=
  Json.Fields.codec_survives_exact (by decide) rfl
    ⟨⟨_, rfl, Json.Field.required_survives condition.type.codec_survives⟩,
      ⟨_, rfl, Json.Field.required_survives condition.status.codec_survives⟩,
      ⟨_, rfl, Json.Field.elided_survives (Codec.text_survives condition.reason)⟩,
      ⟨_, rfl, Json.Field.elided_survives (Codec.text_survives condition.message)⟩,
      ⟨_, rfl, Json.Field.required_survives (Timestamp.codec_survives dated)⟩, trivial⟩

theorem codec_yields : codec.Yields Dated := by
  intro depth node condition decodes
  obtain ⟨values, ⟨-, -, -, -, time, -⟩, rfl⟩ :=
    Json.Fields.codec_yields (by decide) _ _ _ decodes
  exact time.of_required Timestamp.codec_yields

/-- A condition that succeeds a dated one is dated. -/
theorem succeeding_dated {condition held : Condition} (dated : condition.Dated)
    (before : held.Dated) : (condition.succeeding held).Dated := by
  rw [succeeding]
  split
  · exact before
  · exact dated

end Condition

namespace Status

/-- A status is dated when all of its conditions are. -/
def Dated (status : Status) : Prop :=
  ∀ condition ∈ status.conditions, condition.Dated

theorem codec_yields : codec.Yields Dated := by
  intro depth node status decodes
  obtain ⟨values, ⟨-, conditions, -⟩, rfl⟩ :=
    Json.Fields.codec_yields (by decide) _ _ _ decodes
  exact conditions.of_elidedList Condition.codec_yields

/-- A generation of 64 bits. -/
def HasWord (status : Status) : Prop :=
  ∀ generation ∈ status.observedGeneration,
    Word64.leastSigned ≤ generation ∧ generation ≤ Word64.greatestSigned

theorem codec_yields_word : codec.Yields HasWord := by
  intro depth node status decodes
  obtain ⟨values, ⟨generation, -⟩, rfl⟩ :=
    Json.Fields.codec_yields (by decide) _ _ _ decodes
  exact generation.of_optional Codec.integer_yields

/-- Recording a dated condition keeps a status dated. -/
theorem record_dated {status : Status} (dated : status.Dated) {condition : Condition}
    (now : condition.Dated) : (status.record condition).Dated := by
  have kept (conditions : List Condition) (dated : ∀ held ∈ conditions, held.Dated) :
      ∀ held ∈ recordIn condition conditions, held.Dated := by
    induction conditions with
    | nil => exact List.forall_mem_cons.mpr ⟨now, nofun⟩
    | cons first rest ih =>
        obtain ⟨here, others⟩ := List.forall_mem_cons.mp dated
        rw [recordIn]
        split
        · exact List.forall_mem_cons.mpr ⟨Condition.succeeding_dated now here, others⟩
        · exact List.forall_mem_cons.mpr ⟨here, ih others⟩
  exact kept status.conditions dated

/-- A status with a condition recorded is not without conditions. -/
theorem record_conditions_ne_nil (status : Status) (condition : Condition) :
    (status.record condition).conditions ≠ [] := by
  rw [record]
  cases status.conditions with
  | nil => simp [recordIn]
  | cons first rest =>
      simp only [recordIn]
      split <;> simp

end Status

theorem Outcome.condition_dated (outcome : Outcome) (type : ConditionType) {now : Timestamp}
    (valid : now.Valid) : (outcome.condition type now).Dated := by
  cases outcome <;> exact valid

/-- The status behind an outcome is dated when the one before was. -/
theorem FederatedAuth.statusAfter_dated {resource : FederatedAuth}
    (dated : ∀ status ∈ resource.status, status.Dated) (outcome : Outcome) {now : Timestamp}
    (valid : now.Valid) : (resource.statusAfter outcome now).Dated := by
  have before : ((resource.status.getD .empty).atGeneration resource.metadata.generation).Dated := by
    cases held : resource.status with
    | none => exact nofun
    | some status => exact dated status held
  exact Status.record_dated (Status.record_dated before (outcome.condition_dated .ready valid))
    (outcome.condition_dated .federatedAuthReady valid)

end OrgFederation

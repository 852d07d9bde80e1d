import OrgFederation.Proofs.Resource.Verdict

namespace OrgFederation

/-- At this time a condition had this status. -/
structure Moment where
  status : ConditionStatus
  time : Timestamp
  deriving DecidableEq, Repr

namespace Condition

def moment (condition : Condition) : Moment :=
  ⟨condition.status, condition.lastTransitionTime⟩

/-- A condition is dated by moments that end with an unbroken run of its status: it has the time of
the first moment of the run, and what comes before the run had another status. -/
def DatedBy (condition : Condition) (moments : List Moment) : Prop :=
  ∃ before run, moments = before ++ condition.moment :: run ∧
    (∀ moment ∈ run, moment.status = condition.status) ∧
    ∀ moment, before.getLast? = some moment → moment.status ≠ condition.status

variable {condition held : Condition} {moments : List Moment}

/-- The first moment of a condition dates it. -/
theorem DatedBy.first (condition : Condition) : condition.DatedBy [condition.moment] :=
  ⟨[], [], rfl, by simp, by simp⟩

/-- The last of the moments has the status of the condition. -/
theorem DatedBy.last (dated : condition.DatedBy moments) :
    ∀ moment, moments.getLast? = some moment → moment.status = condition.status := by
  obtain ⟨before, run, rfl, same, _⟩ := dated
  intro moment last
  rw [List.getLast?_append, List.getLast?_cons, Option.some_or, Option.some.injEq] at last
  cases final : run.getLast? with
  | none => rw [← last, final]; rfl
  | some other =>
      rw [← last, final]
      exact same other (List.mem_of_getLast? final)

/-- A condition that succeeds a dated one extends its run, or begins a run of its own. -/
theorem DatedBy.succeeding (dated : held.DatedBy moments) (condition : Condition) :
    (condition.succeeding held).DatedBy (moments ++ [condition.moment]) := by
  rw [Condition.succeeding]
  by_cases same : held.status = condition.status
  · obtain ⟨before, run, rfl, unbroken, changed⟩ := dated
    rw [if_pos same]
    refine ⟨before, run ++ [condition.moment], by simp [moment, same], fun other member => ?_,
      same ▸ changed⟩
    rcases List.mem_append.mp member with earlier | last
    · exact (unbroken other earlier).trans same
    · rw [List.mem_singleton.mp last]
      rfl
  · rw [if_neg same]
    refine ⟨moments, [], rfl, by simp, fun other last => ?_⟩
    rw [dated.last other last]
    exact same

/-- A condition in the place of another one, or in a place of its own. -/
def behind (condition : Condition) : Option Condition → Condition
  | some held => condition.succeeding held
  | none => condition

end Condition

namespace Status

/-- The first condition of a type behind its recording. -/
theorem record_condition_self (status : Status) (condition : Condition) :
    (status.record condition).condition? condition.type =
      some (condition.behind (status.condition? condition.type)) := by
  rw [condition?, condition?, record]
  induction status.conditions with
  | nil => simp [recordIn, Condition.behind]
  | cons held rest ih =>
      rw [recordIn]
      by_cases same : held.type = condition.type
      · simp [same, Condition.behind]
      · simpa [same] using ih

/-- A resource without status has no condition. -/
theorem condition_getD_empty (status : Option Status) (type : ConditionType) :
    (status.getD .empty).condition? type = status.bind fun status => status.condition? type := by
  cases status <;> rfl

end Status

/-- An outcome is recorded in both conditions, each in the place of the one that was there. -/
theorem FederatedAuth.statusAfter_condition (resource : FederatedAuth) (outcome : Outcome)
    (now : Timestamp) (type : ConditionType) :
    (resource.statusAfter outcome now).condition? type =
      some ((outcome.condition type now).behind
        (resource.status.bind fun status => status.condition? type)) := by
  have stored : (((resource.status.getD .empty).atGeneration
      resource.metadata.generation).condition? type) =
        resource.status.bind fun status => status.condition? type :=
    Status.condition_getD_empty resource.status type
  have recorded (status : Status) : (status.record (outcome.condition type now)).condition? type =
      some ((outcome.condition type now).behind (status.condition? type)) := by
    simpa using status.record_condition_self (outcome.condition type now)
  rw [statusAfter, ← stored]
  cases type with
  | ready => rw [Status.record_condition_other _ (by simp), recorded]
  | federatedAuthReady => rw [recorded, Status.record_condition_other _ (by simp)]

/-- What was recorded of an outcome: for which generation, its verdict, and when. -/
structure Record where
  generation : Option Int
  verdict : Verdict
  time : Timestamp
  deriving DecidableEq, Repr

def Record.moment (record : Record) : Moment :=
  ⟨record.verdict.status, record.time⟩

/-- The moments of the conditions of a type: the one that was stored at first, and the records. -/
def momentsOf (initial : Option Status) (records : List Record) (type : ConditionType) :
    List Moment :=
  ((initial.bind fun status => status.condition? type).map Condition.moment).toList ++
    records.map Record.moment

/-- A status is true to its records. It is the initial one as long as there are none, it tells the
generation and the verdict of the last one, and its conditions are dated by their moments. -/
structure TrueTo (initial : Option Status) (records : List Record) (status : Option Status) :
    Prop where
  unrecorded : records = [] → status = initial
  last : ∀ record, records.getLast? = some record →
    ∃ recorded, status = some recorded ∧ recorded.Records record.generation record.verdict
  dated : ∀ type condition, (status.bind fun status => status.condition? type) = some condition →
    condition.DatedBy (momentsOf initial records type)

namespace TrueTo

variable {initial : Option Status} {records : List Record}

theorem start (initial : Option Status) : TrueTo initial [] initial := by
  refine ⟨fun _ => rfl, by simp, fun type condition found => ?_⟩
  rw [momentsOf, found]
  exact .first condition

/-- A type without condition has had no moment. -/
theorem unseen {status : Option Status} (told : TrueTo initial records status)
    {type : ConditionType} (missing : (status.bind fun status => status.condition? type) = none) :
    momentsOf initial records type = [] := by
  rcases List.eq_nil_or_concat records with rfl | ⟨earlier, record, rfl⟩
  · rw [told.unrecorded rfl] at missing
    rw [momentsOf, missing]
    rfl
  · -- The last record has left a condition of each type.
    obtain ⟨recorded, rfl, _, ready, federated⟩ := told.last record (by simp)
    cases type with
    | ready => simp [Status.verdict?, show recorded.condition? .ready = none from missing] at ready
    | federatedAuthReady =>
        simp [Status.verdict?, show recorded.condition? .federatedAuthReady = none from missing]
          at federated

/-- Recording an outcome keeps a status true to its records. -/
theorem next (resource : FederatedAuth) (told : TrueTo initial records resource.status)
    (outcome : Outcome) (now : Timestamp) :
    TrueTo initial (records ++ [⟨resource.metadata.generation, outcome.verdict, now⟩])
      (some (resource.statusAfter outcome now)) := by
  refine ⟨by simp, fun record last => ?_, fun type condition found => ?_⟩
  · rw [List.getLast?_concat, Option.some.injEq] at last
    subst last
    exact ⟨_, rfl, resource.statusAfter_records outcome now⟩
  · have moments : momentsOf initial
        (records ++ [⟨resource.metadata.generation, outcome.verdict, now⟩]) type =
          momentsOf initial records type ++ [(outcome.condition type now).moment] := by
      have same : (outcome.condition type now).moment = ⟨outcome.verdict.status, now⟩ := by
        cases outcome <;> rfl
      rw [momentsOf, momentsOf, List.map_append, List.append_assoc, same]
      rfl
    rw [Option.bind_some, resource.statusAfter_condition outcome now type,
      Option.some.injEq] at found
    subst found
    rw [moments]
    cases stored : resource.status.bind fun status => status.condition? type with
    | none =>
        rw [told.unseen stored]
        exact .first _
    | some held => exact (told.dated type held stored).succeeding _

end TrueTo

end OrgFederation

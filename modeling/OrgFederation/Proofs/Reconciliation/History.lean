import OrgFederation.Proofs.Reconciliation.Ends
import OrgFederation.Proofs.Resource.Transitions
import OrgFederation.Reconciliation.Rehearsal

namespace OrgFederation

variable {σ : Type}

namespace Reconciliation

section Recording

variable (surroundings : Surroundings σ) (intervals : Intervals) (now : Timestamp)
  (resource : FederatedAuth) (cancelled : Bool) (state : σ)

/-- The outcome that a reconciliation records: that of a pass which was not cut short, if the status
for it is stored already or the cluster accepts it. -/
def recorded? : Option Outcome :=
  match resource.metadata.namespaceName, passed surroundings resource cancelled state with
  | some namespaceName, (.ok outcome, trace) =>
      let status := resource.statusAfter outcome now
      if trace.cancelled then
        none
      else if resource.status = some status then
        some outcome
      else
        match (surroundings.patchStatus ⟨namespaceName, resource.metadata.anyName, status⟩
          trace.state).1 with
        | .ok () => some outcome
        | .error _ => none
  | _, _ => none

variable {surroundings intervals now resource cancelled state} {done : Reconciliation σ}

/-- The cluster then holds the status for the recorded outcome, or the one from before. -/
theorem Ends.status_recorded
    (ends : Ends surroundings intervals now resource cancelled state done) :
    done.resource.status =
      ((recorded? surroundings now resource cancelled state).map fun outcome =>
        resource.statusAfter outcome now).or resource.status := by
  rw [recorded?]
  cases ends with
  | unnamespaced missing => simp [missing, withoutPatch]
  | failed placed ended => simp [placed, ended, withoutPatch]
  | cut placed ended stopped => simp [placed, ended, stopped, withoutPatch]
  | unchanged placed ended active same => simp [placed, ended, active, ← same, withoutPatch]
  | written placed ended active differs patched =>
      simp [placed, ended, active, differs, patched]
  | refused placed ended active differs patched =>
      simp [placed, ended, active, differs, patched]

/-- A reconciliation that fails or is cut short records nothing. -/
theorem Ends.recorded_none
    (ends : Ends surroundings intervals now resource cancelled state done)
    (halted : (∃ error, done.result = .error error) ∨ done.cancelled = true) :
    recorded? surroundings now resource cancelled state = none := by
  rw [recorded?]
  cases ends with
  | unnamespaced missing => simp [missing]
  | failed placed ended => simp [placed, ended]
  | cut placed ended stopped => simp [placed, ended, stopped]
  | unchanged placed _ active _ | written placed _ active _ _ =>
      rcases halted with ⟨error, failed⟩ | stopped
      · cases failed
      · exact absurd (active.symm.trans stopped) (by decide)
  | refused placed ended active differs patched =>
      simp [placed, ended, active, differs, patched]

/-- Any other records the outcome of its pass. -/
theorem Ends.recorded_some
    (ends : Ends surroundings intervals now resource cancelled state done) {action : Action}
    (succeeded : done.result = .ok action) (active : done.cancelled = false) :
    ∃ outcome, (passed surroundings resource cancelled state).1 = .ok outcome ∧
      recorded? surroundings now resource cancelled state = some outcome := by
  rw [recorded?]
  cases ends with
  | unnamespaced _ => cases succeeded
  | failed _ _ => cases succeeded
  | refused _ _ _ _ _ => cases succeeded
  | cut _ _ stopped => exact absurd (active.symm.trans stopped) (by decide)
  | unchanged placed ended going same =>
      exact ⟨_, congrArg Prod.fst ended, by simp [placed, ended, going, ← same]⟩
  | written placed ended going differs patched =>
      exact ⟨_, congrArg Prod.fst ended, by simp [placed, ended, going, differs, patched]⟩

end Recording

/-- An occasion to reconcile a resource: what has become of the resource and of the state around it
by then, and the surroundings in which it is reconciled. -/
structure Occasion (σ : Type) where
  metadata : Metadata
  spec : Spec
  edit : σ → σ
  surroundings : Surroundings σ
  intervals : Intervals
  now : Timestamp
  cancelled : Bool

/-- An outcome is recorded for the generation that the occasion finds. -/
def Occasion.record (occasion : Occasion σ) (outcome : Outcome) : Record :=
  ⟨occasion.metadata.generation, outcome.verdict, occasion.now⟩

/-- What reconciliations of a resource have come to: the stored status and what was recorded. -/
structure Chronicle (σ : Type) where
  status : Option Status
  records : List Record
  state : σ

namespace Chronicle

def start (initial : Option Status) (state : σ) : Chronicle σ :=
  ⟨initial, [], state⟩

/-- An occasion finds the status that the ones before it have left. -/
def resourceAt (chronicle : Chronicle σ) (occasion : Occasion σ) : FederatedAuth :=
  ⟨occasion.metadata, occasion.spec, chronicle.status⟩

/-- The pass of an occasion. -/
def passedAt (chronicle : Chronicle σ) (occasion : Occasion σ) :
    Except OperatorError Outcome × Trace σ :=
  passed occasion.surroundings (chronicle.resourceAt occasion) occasion.cancelled
    (occasion.edit chronicle.state)

/-- The reconciliation of an occasion. -/
def reconciledAt (chronicle : Chronicle σ) (occasion : Occasion σ) : Reconciliation σ :=
  reconcile occasion.surroundings occasion.intervals occasion.now (chronicle.resourceAt occasion)
    occasion.cancelled (occasion.edit chronicle.state)

/-- The status is stored as the reconciliation leaves it. -/
def next (chronicle : Chronicle σ) (occasion : Occasion σ) : Chronicle σ :=
  let done := chronicle.reconciledAt occasion
  let recorded := recorded? occasion.surroundings occasion.now (chronicle.resourceAt occasion)
    occasion.cancelled (occasion.edit chronicle.state)
  ⟨done.resource.status, chronicle.records ++ (recorded.map occasion.record).toList,
    done.state⟩

/-- An occasion that fails or is cut short leaves records and status as they are. -/
theorem next_unrecorded (chronicle : Chronicle σ) (occasion : Occasion σ)
    (halted : (∃ error, (chronicle.reconciledAt occasion).result = .error error) ∨
      (chronicle.reconciledAt occasion).cancelled = true) :
    (chronicle.next occasion).records = chronicle.records ∧
      (chronicle.next occasion).status = chronicle.status := by
  have ends : Ends _ _ _ _ _ _ (chronicle.reconciledAt occasion) := ends ..
  simp only [next, ends.status_recorded, ends.recorded_none halted, Option.map_none,
    Option.toList_none, List.append_nil, Option.none_or]
  exact ⟨trivial, rfl⟩

/-- Any other adds the record of the outcome of its pass and stores the status for it. -/
theorem next_recorded (chronicle : Chronicle σ) (occasion : Occasion σ) {action : Action}
    (succeeded : (chronicle.reconciledAt occasion).result = .ok action)
    (active : (chronicle.reconciledAt occasion).cancelled = false) :
    ∃ outcome, (chronicle.passedAt occasion).1 = .ok outcome ∧
      (chronicle.next occasion).records =
        chronicle.records ++ [occasion.record outcome] ∧
      (chronicle.next occasion).status =
        some ((chronicle.resourceAt occasion).statusAfter outcome occasion.now) := by
  have ends : Ends _ _ _ _ _ _ (chronicle.reconciledAt occasion) := ends ..
  obtain ⟨outcome, passed, recorded⟩ := ends.recorded_some succeeded active
  refine ⟨outcome, passed, ?_, ?_⟩
  · rw [next, recorded]
    rfl
  · rw [next, ends.status_recorded, recorded]
    rfl

variable {initial : Option Status}

/-- An occasion keeps the stored status true to the records. -/
theorem next_trueTo {chronicle : Chronicle σ}
    (told : TrueTo initial chronicle.records chronicle.status) (occasion : Occasion σ) :
    TrueTo initial (chronicle.next occasion).records (chronicle.next occasion).status := by
  by_cases halted : (∃ error, (chronicle.reconciledAt occasion).result = .error error) ∨
      (chronicle.reconciledAt occasion).cancelled = true
  · obtain ⟨records, status⟩ := chronicle.next_unrecorded occasion halted
    rw [records, status]
    exact told
  · obtain ⟨unfailed, active⟩ := not_or.mp halted
    cases result : (chronicle.reconciledAt occasion).result with
    | error error => exact absurd ⟨error, result⟩ unfailed
    | ok action =>
        obtain ⟨outcome, _, records, status⟩ :=
          chronicle.next_recorded occasion result (by simpa using active)
        rw [records, status]
        exact TrueTo.next (chronicle.resourceAt occasion) told outcome occasion.now

/-- So do all occasions of a run. -/
theorem run_trueTo (occasions : List (Occasion σ)) {chronicle : Chronicle σ}
    (told : TrueTo initial chronicle.records chronicle.status) :
    TrueTo initial (occasions.foldl next chronicle).records
      (occasions.foldl next chronicle).status := by
  induction occasions generalizing chronicle with
  | nil => exact told
  | cons occasion rest ih => exact ih (next_trueTo told occasion)

/-- Behind every run of reconciliations of a resource, whatever changes in between, the stored
status tells the generation and the verdict of the last recorded outcome, and either condition has
the time of the record that began the last unbroken run of its status, or its initial time if no
record did. A reconciliation that fails or is cut short changes nothing, and any other records the
outcome of its pass. -/
theorem status_tells_history (occasions : List (Occasion σ)) (initial : Option Status)
    (state : σ) :
    let behind := occasions.foldl next (.start initial state)
    TrueTo initial behind.records behind.status ∧
      ∀ occasion,
        let done := behind.reconciledAt occasion
        let later := behind.next occasion
        ((∃ error, done.result = .error error) ∨ done.cancelled = true →
          later.records = behind.records ∧ later.status = behind.status) ∧
        (∀ action, done.result = .ok action → done.cancelled = false →
          ∃ outcome, (behind.passedAt occasion).1 = .ok outcome ∧
            later.records = behind.records ++
              [⟨occasion.metadata.generation, outcome.verdict, occasion.now⟩]) := by
  intro behind
  refine ⟨run_trueTo occasions (TrueTo.start initial), fun occasion => ?_⟩
  refine ⟨behind.next_unrecorded occasion, fun action succeeded active => ?_⟩
  obtain ⟨outcome, passed, records, _⟩ := behind.next_recorded occasion succeeded active
  exact ⟨outcome, passed, records⟩

/-- A rehearsal whose connection is refused for its secret, or whose first patch is. -/
def rehearse (enabled : Bool) (patchErrors : List (Option OperatorError)) (second : Int) :
    Occasion Rehearsal where
  metadata := ⟨some "federation", none, some "team", some second, []⟩
  spec := ⟨some enabled, ⟨"secret", none⟩, [], none, none, [], []⟩
  edit _ := ⟨.blank, .error (.connection "team/secret" "secret not found"), false, patchErrors, []⟩
  surroundings := Rehearsal.surroundings
  intervals := .standard
  now := .ofSecond second
  cancelled := false

/-- A refused patch moves no time: the conditions change with the record behind it. -/
example :
    let refused : OperatorError := .cluster (.api 500)
    let behind := [rehearse true [] 1, rehearse false [some refused] 2, rehearse false [] 3,
      rehearse false [] 4].foldl next (.start none ⟨.blank, .ok "", false, [], []⟩)
    behind.records.map Record.moment =
        [⟨.no, .ofSecond 1⟩, ⟨.yes, .ofSecond 3⟩, ⟨.yes, .ofSecond 4⟩] ∧
      (behind.status.bind fun status => status.condition? .ready).map Condition.moment =
        some ⟨.yes, .ofSecond 3⟩ := by
  decide

end Chronicle

end Reconciliation

end OrgFederation

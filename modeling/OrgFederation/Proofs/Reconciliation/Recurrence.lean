import OrgFederation.Proofs.Reconciliation.History
import OrgFederation.Proofs.Resource.Updates

namespace OrgFederation

namespace Status

/-- The place of the first condition of a type, behind all of them if there is none. -/
def place (status : Status) (type : ConditionType) : Nat :=
  status.types.idxOf type

/-- A condition that is recorded leaves every place but that of its type as it is. -/
theorem record_untouched (status : Status) {condition : Condition} {index : Nat}
    (other : index ≠ status.place condition.type) :
    (status.record condition).conditions[index]? = status.conditions[index]? := by
  have placed := status.record_placed condition
  rw [place, types] at other
  generalize status.conditions = conditions at placed other ⊢
  generalize (status.record condition).conditions = recorded at placed ⊢
  cases placed with
  | @instead before behind held first same =>
      have apart : index ≠ before.length := by
        simpa [List.idxOf_append, first, same] using other
      rcases Nat.lt_or_gt_of_ne apart with earlier | later
      · rw [List.getElem?_append_left earlier, List.getElem?_append_left earlier]
      · obtain ⟨distance, rfl⟩ := Nat.exists_eq_add_of_lt later
        rw [List.getElem?_append_right (by omega), List.getElem?_append_right (by omega)]
        simp [Nat.add_assoc]
  | last new =>
      have apart : index ≠ conditions.length := by
        simpa [List.idxOf_eq_length new] using other
      rcases Nat.lt_or_gt_of_ne apart with inside | outside
      · exact List.getElem?_append_left inside
      · rw [List.getElem?_append_right (by omega), List.getElem?_singleton, if_neg (by omega),
          List.getElem?_eq_none (by omega)]

/-- No place becomes the first one of a type by what is recorded. -/
theorem ne_place_record (status : Status) (condition : Condition) {type : ConditionType}
    {index : Nat} (within : index < status.conditions.length) (other : index ≠ status.place type) :
    index ≠ (status.record condition).place type := by
  rw [place] at other ⊢
  rw [record_types]
  split
  · exact other
  · have length : status.types.length = status.conditions.length := List.length_map _
    rw [List.idxOf_append]
    split
    · exact other
    · omega

/-- Recording an outcome adds the types that are missing, and no other one. -/
theorem record_outcome_types (status : Status) (outcome : Outcome) (now : Timestamp) :
    ((status.record (outcome.condition .ready now)).record
      (outcome.condition .federatedAuthReady now)).types =
        status.types ++ [.ready, .federatedAuthReady].removeAll status.types := by
  rw [record_types, record_types]
  by_cases ready : ConditionType.ready ∈ status.types <;>
    by_cases federated : ConditionType.federatedAuthReady ∈ status.types <;>
    simp [List.removeAll, ready, federated]

/-- Recording an outcome leaves every place but the first one of each type as it is. -/
theorem record_outcome_untouched (status : Status) (outcome : Outcome) (now : Timestamp)
    {index : Nat} (within : index < status.conditions.length)
    (others : ∀ type, index ≠ status.place type) :
    ((status.record (outcome.condition .ready now)).record
      (outcome.condition .federatedAuthReady now)).conditions[index]? =
        status.conditions[index]? := by
  have apart := status.ne_place_record (outcome.condition .ready now) within
    (others .federatedAuthReady)
  calc
    _ = (status.record (outcome.condition .ready now)).conditions[index]? :=
      record_untouched _ (by simpa using apart)
    _ = status.conditions[index]? := record_untouched _ (by simpa using others .ready)

/-- An outcome amends a status for a generation: the first condition of each type gives way to that
of the outcome, one that is missing comes last, and every other condition keeps its place. -/
structure AmendedBy (before : Status) (generation : Option Int) (outcome : Outcome)
    (now : Timestamp) (after : Status) : Prop where
  generation : after.observedGeneration = generation
  types : after.types =
    before.types ++ [.ready, .federatedAuthReady].removeAll before.types
  first : ∀ type,
    after.condition? type = some ((outcome.condition type now).behind (before.condition? type))
  others : ∀ index, index < before.conditions.length → (∀ type, index ≠ before.place type) →
    after.conditions[index]? = before.conditions[index]?

end Status

/-- The status behind an outcome is the one before it, amended by the outcome. -/
theorem FederatedAuth.statusAfter_amended (resource : FederatedAuth) (outcome : Outcome)
    (now : Timestamp) :
    (resource.status.getD .empty).AmendedBy resource.metadata.generation outcome now
      (resource.statusAfter outcome now) where
  generation := rfl
  types := Status.record_outcome_types _ outcome now
  first type := by
    rw [Status.condition_getD_empty]
    exact resource.statusAfter_condition outcome now type
  others _ := Status.record_outcome_untouched
    ((resource.status.getD .empty).atGeneration resource.metadata.generation) outcome now

namespace Reconciliation

variable {σ : Type}

/-- A reconciliation writes no status when the verdict of its pass is on record. -/
theorem Ends.unpatched {surroundings : Surroundings σ} {intervals : Intervals} {now : Timestamp}
    {resource : FederatedAuth} {cancelled : Bool} {state : σ} {done : Reconciliation σ}
    (ends : Ends surroundings intervals now resource cancelled state done) {status : Status}
    (stored : resource.status = some status)
    (records : ∀ outcome, (passed surroundings resource cancelled state).1 = .ok outcome →
      status.Records resource.metadata.generation outcome.verdict) :
    done.patch = none ∧ done.resource = resource := by
  cases ends with
  | unnamespaced _ | failed _ _ | cut _ _ _ | unchanged _ _ _ _ => exact ⟨rfl, rfl⟩
  | written _ ended _ differs _ | refused _ ended _ differs _ =>
      have recorded := records _ (congrArg Prod.fst ended)
      rw [FederatedAuth.statusAfter_of_records stored recorded now] at differs
      exact absurd stored differs

namespace Chronicle

/-- The status patches of reconciliations one after the other. -/
def patches : Chronicle σ → List (Occasion σ) → List StatusPatch
  | _, [] => []
  | chronicle, occasion :: rest =>
      (chronicle.reconciledAt occasion).patch.toList ++ patches (chronicle.next occasion) rest

/-- A verdict recurs on occasions of one generation when every pass that comes to an outcome comes
to this verdict. -/
inductive Recurs (generation : Option Int) (verdict : Verdict) :
    Chronicle σ → List (Occasion σ) → Prop
  | done (chronicle : Chronicle σ) : Recurs generation verdict chronicle []
  | again {chronicle : Chronicle σ} {occasion : Occasion σ} {rest : List (Occasion σ)}
      (same : occasion.metadata.generation = generation)
      (told : ∀ outcome, (chronicle.passedAt occasion).1 = .ok outcome → outcome.verdict = verdict)
      (further : Recurs generation verdict (chronicle.next occasion) rest) :
      Recurs generation verdict chronicle (occasion :: rest)

/-- A verdict that is on record and recurs is not written again, and its status stays. -/
theorem Recurs.unpatched {generation : Option Int} {verdict : Verdict} {chronicle : Chronicle σ}
    {occasions : List (Occasion σ)} (recurs : Recurs generation verdict chronicle occasions)
    {status : Status} (stored : chronicle.status = some status)
    (records : status.Records generation verdict) :
    chronicle.patches occasions = [] ∧ (occasions.foldl next chronicle).status = some status := by
  induction recurs with
  | done chronicle => exact ⟨rfl, stored⟩
  | @again chronicle occasion rest same told further ih =>
      have ends : Ends _ _ _ _ _ _ (chronicle.reconciledAt occasion) := ends ..
      obtain ⟨unpatched, kept⟩ := ends.unpatched stored fun outcome ended => by
        rw [told outcome ended]
        exact same ▸ records
      have still : (chronicle.next occasion).status = some status :=
        (congrArg FederatedAuth.status kept).trans stored
      obtain ⟨behind, last⟩ := ih still
      refine ⟨?_, last⟩
      rw [patches, unpatched, behind]
      rfl

end Chronicle

end Reconciliation

namespace FederatedAuth

open Reconciliation (Chronicle Occasion)

/-- Recording an outcome amends the status by it alone. Recorded again for the same generation, at
any time, it leaves exactly the status that is there, and as long as reconciliations of that
generation come to its verdict, none of them writes a status. -/
theorem recording_stands (resource : FederatedAuth) (outcome : Outcome) (now : Timestamp) :
    let generation := resource.metadata.generation
    let status := resource.statusAfter outcome now
    (resource.status.getD .empty).AmendedBy generation outcome now status ∧
    (∀ later : FederatedAuth, later.status = some status → later.metadata.generation = generation →
      ∀ again, later.statusAfter outcome again = status) ∧
    ∀ {σ : Type} (chronicle : Chronicle σ) (occasions : List (Occasion σ)),
      chronicle.status = some status → chronicle.Recurs generation outcome.verdict occasions →
        chronicle.patches occasions = [] ∧
          (occasions.foldl Chronicle.next chronicle).status = some status := by
  intro generation status
  have records : status.Records generation outcome.verdict := resource.statusAfter_records outcome now
  refine ⟨resource.statusAfter_amended outcome now, fun later stored same again => ?_,
    fun chronicle occasions stored recurs => recurs.unpatched stored records⟩
  rw [← same] at records
  exact statusAfter_of_records stored records again

/-- A resource whose status was computed for another generation and holds each condition twice. -/
def doublyReported : FederatedAuth where
  metadata := ⟨some "federation", none, some "team", some 4, []⟩
  spec := ⟨some true, ⟨"secret", none⟩, [], none, none, [], []⟩
  status := some ⟨some 3, [⟨.federatedAuthReady, .yes, "", "", .ofSecond 1⟩,
    ⟨.ready, .no, "Internal", "", .ofSecond 2⟩, ⟨.ready, .yes, "", "", .ofSecond 3⟩,
    ⟨.federatedAuthReady, .no, "Internal", "", .ofSecond 4⟩]⟩

/-- A rehearsal of this resource whose connection is refused for its secret. -/
def refusedAt (second : Int) : Occasion Rehearsal :=
  { Chronicle.rehearse true [] second with metadata := doublyReported.metadata }

/-- The first conditions say what was recorded, one of them since then and the other one since
before, the repeated ones stay, and neither the same outcome nor two refused connections change any
of them. -/
theorem recording_stands_repeated :
    let outcome := Reconciliation.secretInvalid "team/secret" "secret not found"
    let status := doublyReported.statusAfter outcome (.ofSecond 10)
    let later : FederatedAuth := { doublyReported with status := some status }
    let chronicle : Chronicle Rehearsal := .start (some status) ⟨.blank, .ok "", false, [], []⟩
    let message := "connection secret team/secret: secret not found"
    status = ⟨some 4, [
      ⟨.federatedAuthReady, .no, "ConnectionSecretInvalid", message, .ofSecond 10⟩,
      ⟨.ready, .no, "ConnectionSecretInvalid", message, .ofSecond 2⟩,
      ⟨.ready, .yes, "", "", .ofSecond 3⟩,
      ⟨.federatedAuthReady, .no, "Internal", "", .ofSecond 4⟩]⟩ ∧
    status.conditions[2]? = (doublyReported.status.getD .empty).conditions[2]? ∧
    later.statusAfter outcome (.ofSecond 20) = status ∧
    chronicle.Recurs (some 4) outcome.verdict [refusedAt 30, refusedAt 40] ∧
    chronicle.patches [refusedAt 30, refusedAt 40] = [] := by
  intro outcome status later chronicle message
  obtain ⟨amended, again, unpatched⟩ := recording_stands doublyReported outcome (.ofSecond 10)
  have told (behind : Chronicle Rehearsal) (second : Int) (other : Outcome)
      (ended : (behind.passedAt (refusedAt second)).1 = .ok other) :
      other.verdict = outcome.verdict := by
    cases ended
    rfl
  have recurs : chronicle.Recurs (some 4) outcome.verdict [refusedAt 30, refusedAt 40] :=
    .again rfl (told _ 30) (.again rfl (told _ 40) (.done _))
  have apart (type : ConditionType) : 2 ≠ (doublyReported.status.getD .empty).place type := by
    cases type <;> decide
  exact ⟨by decide, amended.others 2 (by decide) apart, again later rfl rfl (.ofSecond 20), recurs,
    (unpatched chronicle _ rfl recurs).1⟩

end FederatedAuth

end OrgFederation

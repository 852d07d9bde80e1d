import OrgFederation.Proofs.Pass.Simulation
import OrgFederation.Reconciliation.Run

namespace OrgFederation

variable {σ τ : Type}

/-- Connections to one organization over remotes that are alike, or the same error. -/
inductive Connecting.Alike (alike : σ → τ → Prop) : Connecting σ → Connecting τ → Prop
  | connected (orgId : String) (cancels : Bool) {first : Remote σ} {second : Remote τ}
      (remotes : first.Alike alike second) :
      Connecting.Alike alike ⟨.ok ⟨orgId, first⟩, cancels⟩ ⟨.ok ⟨orgId, second⟩, cancels⟩
  | failed (error : OperatorError) (cancels : Bool) :
      Connecting.Alike alike ⟨.error error, cancels⟩ ⟨.error error, cancels⟩

/-- Surroundings that connect and patch alike in states that are alike, and go on to such states. -/
structure Surroundings.Alike (alike : σ → τ → Prop) (first : Surroundings σ)
    (second : Surroundings τ) : Prop where
  connect : ∀ resource state other, alike state other →
    (first.connect resource state).1.Alike alike (second.connect resource other).1 ∧
      alike (first.connect resource state).2 (second.connect resource other).2
  patchStatus : ∀ patch state other, alike state other →
    (first.patchStatus patch state).1 = (second.patchStatus patch other).1 ∧
      alike (first.patchStatus patch state).2 (second.patchStatus patch other).2

/-- Reconciliations that have done the same, and have left states that are alike. -/
structure Reconciliation.Alike (alike : σ → τ → Prop) (first : Reconciliation σ)
    (second : Reconciliation τ) : Prop where
  result : first.result = second.result
  patch : first.patch = second.patch
  resource : first.resource = second.resource
  calls : first.calls = second.calls
  cancelled : first.cancelled = second.cancelled
  states : alike first.state second.state

namespace Reconciliation

variable {alike : σ → τ → Prop} {first : Surroundings σ} {second : Surroundings τ}
  {trace : Trace σ} {other : Trace τ}

theorem withoutPatch_alike (resource : FederatedAuth) (result : Except OperatorError Action)
    (runs : trace.Alike alike other) :
    (withoutPatch resource trace result).Alike alike (withoutPatch resource other result) :=
  ⟨rfl, rfl, rfl, runs.calls, runs.cancelled, runs.states⟩

variable (surroundings : first.Alike alike second)
include surroundings

/-- The passes of a resource come to the same outcome. -/
theorem pass_alike (resource : FederatedAuth) (runs : trace.Alike alike other) :
    (pass first resource trace).1 = (pass second resource other).1 ∧
      (pass first resource trace).2.Alike alike (pass second resource other).2 := by
  obtain ⟨connectings, states⟩ := surroundings.connect resource _ _ runs.states
  unfold pass
  split
  · generalize first.connect resource trace.state = ran,
      second.connect resource other.state = beside at connectings states ⊢
    rcases ran with ⟨connecting, state⟩
    rcases beside with ⟨same, behind⟩
    dsimp only at connectings states ⊢
    have connected : Trace.Alike alike ⟨state, trace.cancelled || connecting.cancels, trace.calls⟩
        ⟨behind, other.cancelled || same.cancels, other.calls⟩ := by
      refine ⟨states, ?_, runs.calls⟩
      cases connectings <;> rw [runs.cancelled]
    cases connectings with
    | connected orgId cancels remotes =>
        obtain ⟨told, ended⟩ := Pass.run_alike remotes resource.spec orgId connected
        exact ⟨congrArg Except.ok told, ended⟩
    | failed error cancels => cases error <;> exact ⟨rfl, connected⟩
  · exact ⟨rfl, runs⟩

/-- An outcome is recorded in both or in neither. -/
theorem recordOutcome_alike (intervals : Intervals) (now : Timestamp) (namespaceName : String)
    (resource : FederatedAuth) (outcome : Outcome) (runs : trace.Alike alike other) :
    (recordOutcome first intervals now namespaceName resource outcome trace).Alike alike
      (recordOutcome second intervals now namespaceName resource outcome other) := by
  unfold recordOutcome
  dsimp only
  split
  · exact withoutPatch_alike _ _ runs
  · obtain ⟨told, ended⟩ := surroundings.patchStatus ⟨namespaceName, resource.metadata.anyName,
      resource.statusAfter outcome now⟩ _ _ runs.states
    rcases patched : first.patchStatus _ trace.state with ⟨result, state⟩
    rcases beside : second.patchStatus _ other.state with ⟨same, behind⟩
    rw [patched, beside] at told ended
    obtain rfl : result = same := told
    cases result <;> exact ⟨rfl, rfl, rfl, runs.calls, runs.cancelled, ended⟩

end Reconciliation

/-- Reconciliations in surroundings that are alike have done the same. -/
theorem reconcile_alike {alike : σ → τ → Prop} {first : Surroundings σ} {second : Surroundings τ}
    (surroundings : first.Alike alike second) (intervals : Intervals) (now : Timestamp)
    (resource : FederatedAuth) (cancelled : Bool) {state : σ} {other : τ}
    (states : alike state other) :
    (reconcile first intervals now resource cancelled state).Alike alike
      (reconcile second intervals now resource cancelled other) := by
  have start : (Trace.start state cancelled).Alike alike (Trace.start other cancelled) :=
    ⟨states, rfl, rfl⟩
  unfold reconcile
  cases resource.metadata.namespaceName with
  | none => exact Reconciliation.withoutPatch_alike _ _ start
  | some namespaceName =>
      obtain ⟨told, ended⟩ := Reconciliation.pass_alike surroundings resource start
      dsimp only
      rcases ran : Reconciliation.pass first resource (Trace.start state cancelled) with
        ⟨result, trace⟩
      rcases beside : Reconciliation.pass second resource (Trace.start other cancelled) with
        ⟨same, behind⟩
      rw [ran, beside] at told ended
      obtain rfl : result = same := told
      cases result with
      | error error => exact Reconciliation.withoutPatch_alike _ _ ended
      | ok outcome =>
          dsimp only
          rw [ended.cancelled]
          split
          · exact Reconciliation.withoutPatch_alike _ _ ended
          · exact Reconciliation.recordOutcome_alike surroundings intervals now namespaceName
              resource outcome ended

end OrgFederation

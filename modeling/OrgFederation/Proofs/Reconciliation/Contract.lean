import OrgFederation.Proofs.Pass.Simulation
import OrgFederation.Proofs.Reconciliation.Ends
import OrgFederation.Proofs.Resource.Verdict

namespace OrgFederation

variable {σ β : Type}

namespace Reconciliation

/-- A reconciliation whose state keeps something besides. -/
def beside (done : Reconciliation σ) (kept : β) : Reconciliation (σ × β) :=
  ⟨done.result, done.patch, done.resource, done.calls, done.cancelled, (done.state, kept)⟩

end Reconciliation

/-- The same remote, with something beside its state that no call changes. -/
def Remote.beside (remote : Remote σ) : Remote (σ × β) where
  reply call state := ((remote.reply call state.1).1, ((remote.reply call state.1).2, state.2))

/-- The same surroundings, in which every status that is to be written is noted. -/
def Surroundings.watched (surroundings : Surroundings σ) :
    Surroundings (σ × List StatusPatch) where
  connect resource state :=
    let (connecting, next) := surroundings.connect resource state.1
    (⟨connecting.result.map fun connection => ⟨connection.orgId, connection.remote.beside⟩,
      connecting.cancels⟩, (next, state.2))
  patchStatus patch state :=
    let (result, next) := surroundings.patchStatus patch state.1
    (result, (next, state.2 ++ [patch]))

theorem Surroundings.watched_patchStatus (surroundings : Surroundings σ) (patch : StatusPatch)
    (state : σ) (noted : List StatusPatch) :
    surroundings.watched.patchStatus patch (state, noted) =
      ((surroundings.patchStatus patch state).1,
        ((surroundings.patchStatus patch state).2, noted ++ [patch])) := rfl

namespace Reconciliation

/-- Whatever is kept beside a state stays as it is during a pass. -/
theorem pass_watched (surroundings : Surroundings σ) (resource : FederatedAuth) {start : Trace σ}
    {other : Trace (σ × List StatusPatch)} {noted : List StatusPatch}
    (runs : start.Alike (fun state watched => watched = (state, noted)) other) :
    (pass surroundings resource start).1 = (pass surroundings.watched resource other).1 ∧
      (pass surroundings resource start).2.Alike (fun state watched => watched = (state, noted))
        (pass surroundings.watched resource other).2 := by
  cases enabled : resource.spec.isEnabled with
  | false =>
      rw [pass_disabled surroundings start enabled,
        pass_disabled surroundings.watched other enabled]
      exact ⟨rfl, runs⟩
  | true =>
      have states := runs.states
      have behind : (connectedTrace surroundings resource start).Alike
          (fun state watched => watched = (state, noted))
          (connectedTrace surroundings.watched resource other) := by
        refine ⟨?_, ?_, runs.calls⟩ <;>
          simp only [connectedTrace, Surroundings.watched, states, runs.cancelled]
      have same : (surroundings.watched.connect resource other.state).1.result =
          (surroundings.connect resource start.state).1.result.map fun connection =>
            ⟨connection.orgId, connection.remote.beside⟩ := by
        rw [states]
        rfl
      -- Connecting ends alike on both sides, up to what the remote keeps besides.
      cases connected : (surroundings.connect resource start.state).1.result with
      | ok connection =>
          rw [connected] at same
          rw [pass_connected enabled connected, pass_connected enabled same]
          have remotes : connection.remote.Alike (fun state watched => watched = (state, noted))
              connection.remote.beside := by
            rintro call state _ rfl
            exact ⟨rfl, rfl⟩
          have ended := Pass.run_alike remotes resource.spec connection.orgId behind
          exact ⟨congrArg Except.ok ended.1, ended.2⟩
      | error error =>
          rw [connected] at same
          by_cases secret : ∀ secret message, error ≠ .connection secret message
          · rw [pass_failed enabled connected secret, pass_failed enabled same secret]
            exact ⟨rfl, behind⟩
          · cases error with
            | connection secret message =>
                rw [pass_unconnected enabled connected, pass_unconnected enabled same]
                exact ⟨rfl, behind⟩
            | _ => exact absurd (by simp) secret

/-- Recording an outcome notes the status that is written, if one is. -/
theorem recordOutcome_watched (surroundings : Surroundings σ) (intervals : Intervals)
    (now : Timestamp) (namespaceName : String) (resource : FederatedAuth) (outcome : Outcome)
    (trace : Trace σ) (noted : List StatusPatch) :
    let done := recordOutcome surroundings intervals now namespaceName resource outcome trace
    recordOutcome surroundings.watched intervals now namespaceName resource outcome
        ⟨(trace.state, noted), trace.cancelled, trace.calls⟩ =
      done.beside (noted ++ done.patch.toList) := by
  intro done
  by_cases same : resource.status = some (resource.statusAfter outcome now)
  · simp [done, recordOutcome, if_pos same, withoutPatch, beside]
  · rcases patched : surroundings.patchStatus ⟨namespaceName, resource.metadata.anyName,
      resource.statusAfter outcome now⟩ trace.state with ⟨result, next⟩
    simp only [done, recordOutcome, if_neg same, surroundings.watched_patchStatus, patched]
    cases result <;> rfl

/-- A reconciliation notes the status that it writes and no other. -/
theorem reconcile_watched (surroundings : Surroundings σ) (intervals : Intervals) (now : Timestamp)
    (resource : FederatedAuth) (cancelled : Bool) (state : σ) (noted : List StatusPatch) :
    let done := reconcile surroundings intervals now resource cancelled state
    reconcile surroundings.watched intervals now resource cancelled (state, noted) =
      done.beside (noted ++ done.patch.toList) := by
  intro done
  obtain ⟨told, ended⟩ := pass_watched surroundings resource
    (⟨rfl, rfl, rfl⟩ : (Trace.start state cancelled).Alike
      (fun state watched => watched = (state, noted)) (Trace.start (state, noted) cancelled))
  simp only [done, reconcile]
  cases resource.metadata.namespaceName with
  | none => simp [withoutPatch, beside, Trace.start]
  | some namespaceName =>
      rcases ran : pass surroundings resource (Trace.start state cancelled) with ⟨result, trace⟩
      rcases watched : pass surroundings.watched resource (Trace.start (state, noted) cancelled)
        with ⟨same, later⟩
      rw [ran, watched] at told ended
      obtain rfl : result = same := told
      obtain rfl : later = ⟨(trace.state, noted), trace.cancelled, trace.calls⟩ := by
        rw [← ended.states, ended.cancelled, ended.calls]
      cases result with
      | error error => simp [withoutPatch, beside]
      | ok outcome =>
          dsimp only
          split
          · simp [withoutPatch, beside]
          · exact recordOutcome_watched _ _ _ _ _ _ _ _

end Reconciliation

/-- An action suits a recorded verdict when it waits as long as the verdict asks for. -/
structure Intervals.Suits (intervals : Intervals) (verdict : Verdict) (action : Action) : Prop where
  converged : verdict.status = .yes → action = .requeue intervals.resync
  parked : action = .awaitChange ↔
    verdict.reason = FailureReason.federatedAuthNotAvailable.name ∨
      verdict.reason = FailureReason.federatedAuthUsersConflict.name
  retried : verdict.status ≠ .yes → action ≠ .awaitChange → action = .requeue intervals.retry
  distinct : intervals.resync ≠ intervals.retry → action = .requeue intervals.resync →
    verdict.status = .yes

/-- The action behind an outcome suits its verdict. -/
theorem Intervals.actionFor_suits (intervals : Intervals) (outcome : Outcome) :
    intervals.Suits outcome.verdict (intervals.actionFor outcome.followUp) := by
  cases outcome with
  | settled message => constructor <;> simp [Outcome.verdict, Outcome.followUp, actionFor,
      FailureReason.name]
  | failed reason message =>
      cases reason <;> constructor <;> simp [Outcome.verdict, Outcome.followUp, actionFor,
        FailureReason.name, FailureReason.isRetryable, eq_comm]

namespace Reconciliation.Ends

variable {surroundings : Surroundings σ} {intervals : Intervals} {now : Timestamp}
  {resource : FederatedAuth} {cancelled : Bool} {state : σ} {done : Reconciliation σ}

/-- A status that is written is one of the resource itself, and it records the verdict of the
pass. -/
theorem patch_own (ends : Ends surroundings intervals now resource cancelled state done)
    {patch : StatusPatch} (wrote : done.patch = some patch) :
    resource.metadata.namespaceName = some patch.namespaceName ∧
      patch.name = resource.metadata.anyName ∧
      ∃ outcome, (passed surroundings resource cancelled state).1 = .ok outcome ∧
        patch.status.Records resource.metadata.generation outcome.verdict := by
  cases ends with
  | unnamespaced _ => cases wrote
  | failed _ _ => cases wrote
  | cut _ _ _ => cases wrote
  | unchanged _ _ _ _ => cases wrote
  | written placed ended _ _ _ | refused placed ended _ _ _ =>
      cases wrote
      exact ⟨placed, rfl, _, congrArg Prod.fst ended, resource.statusAfter_records _ now⟩

/-- No status is written when there is none to record, and only then. -/
theorem patch_none_iff (ends : Ends surroundings intervals now resource cancelled state done) :
    done.patch = none ↔
      resource.metadata.namespaceName = none ∨
      (∃ error, Unreached surroundings resource state error) ∨
      (passed surroundings resource cancelled state).2.cancelled = true ∨
      ∃ outcome, (passed surroundings resource cancelled state).1 = .ok outcome ∧
        resource.status = some (resource.statusAfter outcome now) := by
  cases ends with
  | unnamespaced missing => simp [withoutPatch, missing]
  | failed placed ended =>
      have unreached := pass_error_iff.mp (congrArg Prod.fst ended)
      exact ⟨fun _ => .inr (.inl ⟨_, unreached⟩), fun _ => rfl⟩
  | cut placed ended stopped =>
      exact ⟨fun _ => .inr (.inr (.inl (by rw [ended]; exact stopped))), fun _ => rfl⟩
  | unchanged placed ended active same =>
      exact ⟨fun _ => .inr (.inr (.inr ⟨_, congrArg Prod.fst ended, same⟩)), fun _ => rfl⟩
  | @written namespaceName outcome trace _ placed ended active differs _
  | @refused namespaceName outcome trace _ _ placed ended active differs _ =>
      constructor
      · intro none
        cases none
      · rintro (missing | ⟨error, unreached⟩ | stopped | ⟨other, same, recorded⟩)
        · rw [placed] at missing
          cases missing
        · have failed : (passed surroundings resource cancelled state).1 = .error error :=
            pass_error_iff.mpr unreached
          rw [ended] at failed
          cases failed
        · rw [ended, active] at stopped
          cases stopped
        · rw [ended] at same
          cases same
          exact absurd recorded differs

/-- The action that follows suits the verdict that is recorded, unless the pass was cut short. -/
theorem action_suits (ends : Ends surroundings intervals now resource cancelled state done)
    {action : Action} (succeeded : done.result = .ok action) :
    if (passed surroundings resource cancelled state).2.cancelled = true then
      action = .awaitChange
    else
      ∃ outcome status, (passed surroundings resource cancelled state).1 = .ok outcome ∧
        done.resource.status = some status ∧
        status.Records resource.metadata.generation outcome.verdict ∧
        intervals.Suits outcome.verdict action := by
  cases ends with
  | unnamespaced _ => cases succeeded
  | failed _ _ => cases succeeded
  | refused _ _ _ _ _ => cases succeeded
  | cut placed ended stopped =>
      cases succeeded
      rw [ended, if_pos stopped]
  | unchanged placed ended active same =>
      cases succeeded
      rw [ended, if_neg (by simp [active])]
      exact ⟨_, _, rfl, same, resource.statusAfter_records _ now, intervals.actionFor_suits _⟩
  | written placed ended active _ _ =>
      cases succeeded
      rw [ended, if_neg (by simp [active])]
      exact ⟨_, _, rfl, rfl, resource.statusAfter_records _ now, intervals.actionFor_suits _⟩

/-- An error leaves the resource as it is, and it is the one of a missing namespace, of connecting
or of the write. -/
theorem error_explained (ends : Ends surroundings intervals now resource cancelled state done)
    {error : OperatorError} (failed : done.result = .error error) :
    done.resource = resource ∧
      (error = namespaceMissing resource ∨ Unreached surroundings resource state error ∨
        ∃ patch, done.patch = some patch ∧
          (surroundings.patchStatus patch
            (passed surroundings resource cancelled state).2.state).1 = .error error) := by
  cases ends with
  | unnamespaced missing =>
      cases failed
      exact ⟨rfl, .inl rfl⟩
  | failed placed ended =>
      cases failed
      exact ⟨rfl, .inr (.inl (pass_error_iff.mp (congrArg Prod.fst ended)))⟩
  | refused placed ended _ _ patched =>
      cases failed
      exact ⟨rfl, .inr (.inr ⟨_, rfl, by rw [ended, patched]⟩)⟩
  | cut _ _ _ | unchanged _ _ _ _ | written _ _ _ _ _ => cases failed

end Reconciliation.Ends

section Contract

open Reconciliation

/-- A reconciliation writes at most one status, of its own resource, and it writes none exactly when
there is nothing to record. What it records is the verdict of its pass, and its action suits it. A
pass that was cut short is left alone, and an error leaves the resource as it is. -/
theorem reconcile_contract (surroundings : Surroundings σ) (intervals : Intervals)
    (now : Timestamp) (resource : FederatedAuth) (cancelled : Bool) (state : σ) :
    let done := reconcile surroundings intervals now resource cancelled state
    let ended := passed surroundings resource cancelled state
    let generation := resource.metadata.generation
    (∀ noted, reconcile surroundings.watched intervals now resource cancelled (state, noted) =
      done.beside (noted ++ done.patch.toList)) ∧
    (∀ patch, done.patch = some patch →
      resource.metadata.namespaceName = some patch.namespaceName ∧
      patch.name = resource.metadata.anyName ∧
      ∃ outcome, ended.1 = .ok outcome ∧ patch.status.Records generation outcome.verdict) ∧
    (done.patch = none ↔
      resource.metadata.namespaceName = none ∨
      (∃ error, Unreached surroundings resource state error) ∨
      ended.2.cancelled = true ∨
      ∃ outcome, ended.1 = .ok outcome ∧
        resource.status = some (resource.statusAfter outcome now)) ∧
    (∀ action, done.result = .ok action →
      if ended.2.cancelled = true then action = .awaitChange
      else ∃ outcome status, ended.1 = .ok outcome ∧ done.resource.status = some status ∧
        status.Records generation outcome.verdict ∧ intervals.Suits outcome.verdict action) ∧
    (∀ secret message, resource.spec.isEnabled = true →
      (surroundings.connect resource state).1.result = .error (.connection secret message) →
      done.calls = [] ∧ ∃ outcome, ended.1 = .ok outcome ∧
        outcome.verdict.reason = FailureReason.connectionSecretInvalid.name) ∧
    (∀ error, done.result = .error error →
      done.resource = resource ∧
      done.action intervals =
        (if error.isRetryable then .requeue intervals.retry else .awaitChange) ∧
      (error = namespaceMissing resource ∨ Unreached surroundings resource state error ∨
        ∃ patch, done.patch = some patch ∧
          (surroundings.patchStatus patch ended.2.state).1 = .error error)) := by
  intro done ended generation
  have ends := Reconciliation.ends surroundings intervals now resource cancelled state
  refine ⟨reconcile_watched surroundings intervals now resource cancelled state,
    fun _ => ends.patch_own, ends.patch_none_iff, fun _ => ends.action_suits, ?_, ?_⟩
  · intro secret message enabled unconnected
    have quiet : ended = _ := pass_unconnected enabled unconnected
    refine ⟨?_, _, congrArg Prod.fst quiet, rfl⟩
    rw [ends.calls]
    exact (congrArg _ (congrArg (·.2.calls) quiet)).trans (ite_self _)
  · intro error failed
    obtain ⟨kept, cause⟩ := ends.error_explained failed
    refine ⟨kept, ?_, cause⟩
    rw [action, failed]
    rfl

end Contract

end OrgFederation

import OrgFederation.Proofs.Pass.Failures
import OrgFederation.Proofs.Reconciliation.Ends
import OrgFederation.Reconciliation.Rehearsal

namespace OrgFederation

variable {σ : Type}

/-- A failure that may be over at the next attempt: there was no answer, or none that could be read,
or one that tells of another problem than a missing entity. -/
def CallError.isTransient : CallError → Bool
  | .status _ _ _ | .transport _ | .decode _ => true
  | .notFound _ | .cancelled => false

/-- The call reads the federation settings. -/
def Call.readsSettings : Call → Bool
  | .federationSettings _ => true
  | _ => false

namespace Protocol

variable {orgId : String} {answers : Answers}

/-- A call is told in a course exactly when it is made, with the answer behind the calls before it. -/
theorem told_mem_course_iff {prior : List Call} {plan : List Step} {call : Call}
    {answer : Except CallError call.Answer} :
    .told call answer ∈ course orgId answers prior plan ↔
      ∃ earlier later, callsMade orgId answers prior plan = earlier ++ call :: later ∧
        answers (prior ++ earlier) call = answer := by
  induction plan generalizing prior with
  | nil => simp [course, callsMade]
  | cons step rest ih =>
      cases step with
      | needs text =>
          rw [course, callsMade]
          cases text.isEmpty with
          | true => simp
          | false => simpa using ih
      | asks first =>
          rw [course, callsMade, List.mem_cons]
          constructor
          · rintro (same | further)
            · cases same
              exact ⟨[], _, rfl, congrArg (answers · _) (List.append_nil prior)⟩
            · split at further
              · cases further
              · rename_i passed
                obtain ⟨earlier, later, made, told⟩ := ih.mp further
                refine ⟨first :: earlier, later, ?_, ?_⟩
                · rw [if_neg passed, made, List.cons_append]
                · rwa [List.append_cons]
          · rintro ⟨earlier, later, made, told⟩
            cases earlier with
            | nil =>
                obtain ⟨rfl, -⟩ := List.cons.inj made
                rw [List.append_nil] at told
                exact .inl (told ▸ rfl)
            | cons other earlier =>
                obtain ⟨rfl, behind⟩ := List.cons.inj made
                refine .inr ?_
                split at behind
                · simp at behind
                · rename_i passed
                  rw [if_neg passed]
                  refine ih.mpr ⟨earlier, later, behind, ?_⟩
                  rwa [← List.append_cons]

/-- A call that fails in passing gives a reason to try again, unless it reads the settings. -/
theorem Event.reason_of_transient (orgId : String) (call : Call) {cause : CallError}
    (transient : cause.isTransient = true) : ∃ reason,
      (Event.told call (.error cause)).reason? orgId = some reason ∧
        reason.isRetryable = !call.readsSettings := by
  have other : cause ≠ .cancelled := by
    rintro rfl
    cases transient
  cases call with
  | federationSettings org => exact ⟨_, congrArg some (reasonFor_of_ne other _), rfl⟩
  | connectedOrgConfig settingsId org => exact ⟨_, congrArg some (reasonFor_of_ne other _), rfl⟩
  | updateConnectedOrgConfig settingsId org desired => exact ⟨.internal, rfl, rfl⟩
  | identityProvider settingsId providerId => exact ⟨.internal, rfl, rfl⟩
  | updateIdentityProvider settingsId providerId settings => exact ⟨.internal, rfl, rfl⟩
  | projectByName name => exact ⟨.internal, rfl, rfl⟩

end Protocol

/-- The reason decides about the action behind a failed pass. -/
theorem Intervals.actionFor_of_reason (intervals : Intervals) {outcome : Outcome}
    {reason : FailureReason} (failed : outcome.reason? = some reason) :
    intervals.actionFor outcome.followUp =
      if reason.isRetryable then .requeue intervals.retry else .awaitChange := by
  cases outcome with
  | settled message => cases failed
  | failed other message =>
      cases failed
      rw [Outcome.followUp]
      split <;> rfl

/-- A pass leads to waiting for a change exactly for two of the reasons to fail. -/
theorem Intervals.actionFor_awaitChange_iff (intervals : Intervals) (outcome : Outcome) :
    intervals.actionFor outcome.followUp = .awaitChange ↔
      outcome.reason? = some .federatedAuthNotAvailable ∨
        outcome.reason? = some .federatedAuthUsersConflict := by
  cases outcome with
  | settled message => simp [Outcome.followUp, Outcome.reason?, actionFor]
  | failed reason message =>
      cases reason <;>
        simp [Outcome.followUp, Outcome.reason?, actionFor, FailureReason.isRetryable]

namespace Reconciliation

/-- A reconciliation makes a call and is answered. -/
def Heard (surroundings : Surroundings σ) (resource : FederatedAuth) (state : σ)
    (done : Reconciliation σ) (call : Call) (answer : Except CallError call.Answer) : Prop :=
  ∃ connection, (surroundings.connect resource state).1.result = .ok connection ∧
    ∃ earlier later, done.calls = earlier ++ call :: later ∧
      connection.remote.answer (surroundings.connect resource state).2 earlier call = answer

section Ending

variable {surroundings : Surroundings σ} {intervals : Intervals} {now : Timestamp}
  {resource : FederatedAuth} {cancelled : Bool} {state : σ} {done : Reconciliation σ}

/-- A reconciliation leads to an action, unless the status is refused that is to be recorded. -/
def LeadsTo (surroundings : Surroundings σ) (resource : FederatedAuth) (cancelled : Bool)
    (state : σ) (done : Reconciliation σ) (action : Action) : Prop :=
  done.result = .ok action ∨ ∃ patch error, done.patch = some patch ∧
    done.result = .error error ∧
    (surroundings.patchStatus patch (passed surroundings resource cancelled state).2.state).1 =
      .error error

/-- A reconciliation that is not cancelled leads to the action that follows the outcome of its
pass. -/
theorem Ends.leadsTo (ends : Ends surroundings intervals now resource cancelled state done)
    (placed : resource.metadata.namespaceName ≠ none) (active : done.cancelled = false)
    {outcome : Outcome} (ended : (passed surroundings resource cancelled state).1 = .ok outcome) :
    LeadsTo surroundings resource cancelled state done
      (intervals.actionFor outcome.followUp) := by
  cases ends with
  | unnamespaced missing => exact absurd missing placed
  | failed _ failing =>
      rw [failing] at ended
      cases ended
  | cut _ _ stopped =>
      rw [withoutPatch, stopped] at active
      cases active
  | unchanged _ other _ _ | written _ other _ _ _ =>
      rw [other] at ended
      cases ended
      exact .inl rfl
  | refused _ other _ _ patched =>
      exact .inr ⟨_, _, rfl, rfl, by rw [other, patched]⟩

/-- An action of a reconciliation that is not cancelled follows the outcome of its pass. -/
theorem Ends.action_eq (ends : Ends surroundings intervals now resource cancelled state done)
    (active : done.cancelled = false) {action : Action} (succeeded : done.result = .ok action) :
    resource.metadata.namespaceName ≠ none ∧
      ∃ outcome, (passed surroundings resource cancelled state).1 = .ok outcome ∧
        action = intervals.actionFor outcome.followUp := by
  cases ends with
  | unnamespaced _ | failed _ _ | refused _ _ _ _ _ => cases succeeded
  | cut _ _ stopped =>
      rw [withoutPatch, stopped] at active
      cases active
  | unchanged placed ended _ _ | written placed ended _ _ _ =>
      cases succeeded
      exact ⟨by simp [placed], _, by rw [ended], rfl⟩

/-- A reconciliation is cancelled when its pass is, unless it has no namespace. -/
theorem Ends.cancelled_eq (ends : Ends surroundings intervals now resource cancelled state done)
    (placed : resource.metadata.namespaceName ≠ none) :
    (passed surroundings resource cancelled state).2.cancelled = done.cancelled := by
  cases ends with
  | unnamespaced missing => exact absurd missing placed
  | failed _ ended | cut _ ended _ | unchanged _ ended _ _ | written _ ended _ _ _
  | refused _ ended _ _ _ => exact congrArg (·.2.cancelled) ended

/-- The run of a pass from a connection. -/
abbrev connectedStart (surroundings : Surroundings σ) (resource : FederatedAuth)
    (cancelled : Bool) (state : σ) : Trace σ :=
  connectedTrace surroundings resource (Trace.start state cancelled)

/-- What is heard in a reconciliation that is not cancelled is what is told in the course of its
pass. -/
theorem Ends.heard_iff (ends : Ends surroundings intervals now resource cancelled state done)
    (enabled : resource.spec.isEnabled = true) (placed : resource.metadata.namespaceName ≠ none)
    (active : done.cancelled = false) {connection : Connection σ}
    (connected : (surroundings.connect resource state).1.result = .ok connection) {call : Call}
    {answer : Except CallError call.Answer} :
    let answers := connection.remote.attempt
      (connectedStart surroundings resource cancelled state)
    Heard surroundings resource state done call answer ↔
      .told call answer ∈ Protocol.course connection.orgId answers []
        (Protocol.plan resource.spec connection.orgId answers) := by
  intro answers
  have ran : passed surroundings resource cancelled state = _ := pass_connected enabled connected
  have calls := ends.calls
  rw [if_neg placed, ran] at calls
  have calm := ends.cancelled_eq placed
  rw [ran, active] at calm
  obtain ⟨-, refused, reached, ended, told⟩ := Protocol.run_calls connection.remote enabled
    connection.orgId (surroundings.connect resource state).2
    (cancelled || (surroundings.connect resource state).1.cancels)
  have unrefused : refused = [] := by
    cases refused with
    | nil => rfl
    | cons call rest => exact absurd ((ended (List.cons_ne_nil _ _)).symm.trans calm) (by decide)
  rw [unrefused, List.append_nil] at reached
  have made : Protocol.callsMade connection.orgId answers []
      (Protocol.plan resource.spec connection.orgId answers) = done.calls :=
    reached.trans calls.symm
  have answered (earlier : List Call) (call : Call) (later : List Call)
      (split : done.calls = earlier ++ call :: later) : answers earlier call =
        connection.remote.answer (surroundings.connect resource state).2 earlier call :=
    told earlier call later (calls.symm.trans split)
  rw [Protocol.told_mem_course_iff, made]
  constructor
  · rintro ⟨other, same, earlier, later, split, heard⟩
    obtain rfl : connection = other := Except.ok.inj (connected.symm.trans same)
    exact ⟨earlier, later, split, (answered earlier call later split).trans heard⟩
  · rintro ⟨earlier, later, split, heard⟩
    exact ⟨connection, connected, earlier, later, split,
      (answered earlier call later split).symm.trans heard⟩

/-- What is heard is heard from a connection, and it is heard within a namespace. -/
theorem Ends.of_heard (ends : Ends surroundings intervals now resource cancelled state done)
    {call : Call} {answer : Except CallError call.Answer}
    (heard : Heard surroundings resource state done call answer) :
    resource.metadata.namespaceName ≠ none ∧ ∃ connection,
      (surroundings.connect resource state).1.result = .ok connection := by
  obtain ⟨connection, connected, earlier, later, split, -⟩ := heard
  refine ⟨fun missing => ?_, connection, connected⟩
  rw [ends.calls, if_pos missing] at split
  cases earlier <;> cases split

/-- Without a connection a pass fails only for the sake of its secret. -/
theorem passed_reason_of_error {error : OperatorError}
    (enabled : resource.spec.isEnabled = true)
    (connected : (surroundings.connect resource state).1.result = .error error)
    {outcome : Outcome} (ended : (passed surroundings resource cancelled state).1 = .ok outcome) :
    outcome.reason? = some .connectionSecretInvalid := by
  cases error with
  | connection secret message =>
      have unconnected : passed surroundings resource cancelled state = _ :=
        pass_unconnected enabled connected
      rw [unconnected] at ended
      cases ended
      rfl
  | _ =>
      have failed : passed surroundings resource cancelled state = _ :=
        pass_failed enabled connected (by simp)
      rw [failed] at ended
      cases ended

/-- A call that fails without telling that something is missing leads to another attempt, unless it
reads the settings. -/
theorem Ends.leadsTo_of_transient
    (ends : Ends surroundings intervals now resource cancelled state done)
    (enabled : resource.spec.isEnabled = true) (active : done.cancelled = false) {call : Call}
    {cause : CallError} (heard : Heard surroundings resource state done call (.error cause))
    (transient : cause.isTransient = true) :
    LeadsTo surroundings resource cancelled state done
      (if call.readsSettings then .awaitChange else .requeue intervals.retry) := by
  obtain ⟨placed, connection, connected⟩ := ends.of_heard heard
  have ran : passed surroundings resource cancelled state = _ := pass_connected enabled connected
  have reached := (ends.heard_iff enabled placed active connected).mp heard
  obtain ⟨reason, given, retried⟩ :=
    Protocol.Event.reason_of_transient connection.orgId call transient
  have decided := Protocol.reason_of_told reached (.inl (by simp [given]))
  have failed := (Protocol.reason_of_run connection.remote
    (connectedStart surroundings resource cancelled state) enabled connection.orgId).1
  rw [decided, given] at failed
  have leads := ends.leadsTo placed active (congrArg Prod.fst ran)
  rw [intervals.actionFor_of_reason failed, retried] at leads
  cases reads : call.readsSettings <;> simpa [reads] using leads

/-- The settings can not be read in the course of a pass exactly when this is heard. -/
theorem Ends.settingsUnread_iff
    (ends : Ends surroundings intervals now resource cancelled state done)
    (enabled : resource.spec.isEnabled = true) (placed : resource.metadata.namespaceName ≠ none)
    (active : done.cancelled = false) {connection : Connection σ}
    (connected : (surroundings.connect resource state).1.result = .ok connection) :
    let answers := connection.remote.attempt
      (connectedStart surroundings resource cancelled state)
    Protocol.SettingsUnread connection.orgId (Protocol.course connection.orgId answers []
      (Protocol.plan resource.spec connection.orgId answers)) ↔
    ∃ org cause, cause ≠ .cancelled ∧
      Heard surroundings resource state done (.federationSettings org) (.error cause) := by
  intro answers
  constructor
  · rintro ⟨cause, other, reached⟩
    exact ⟨_, cause, other, (ends.heard_iff enabled placed active connected).mpr reached⟩
  · rintro ⟨org, cause, other, heard⟩
    have reached := (ends.heard_iff enabled placed active connected).mp heard
    rcases Protocol.asks_of_told reached with same | ⟨_, same⟩ | same | ⟨_, _, same⟩ <;> cases same
    exact ⟨cause, other, reached⟩

/-- Users are in conflict in the course of a pass exactly when this is heard. -/
theorem Ends.usersInConflict_iff
    (ends : Ends surroundings intervals now resource cancelled state done)
    (enabled : resource.spec.isEnabled = true) (placed : resource.metadata.namespaceName ≠ none)
    (active : done.cancelled = false) {connection : Connection σ}
    (connected : (surroundings.connect resource state).1.result = .ok connection) :
    let answers := connection.remote.attempt
      (connectedStart surroundings resource cancelled state)
    Protocol.UsersInConflict connection.orgId (Protocol.course connection.orgId answers []
      (Protocol.plan resource.spec connection.orgId answers)) ↔
    ∃ settingsId org desired, ∃ response : ConnectedOrgConfig,
      response.userConflicts.getD [] ≠ [] ∧
      Heard surroundings resource state done
        (.updateConnectedOrgConfig settingsId org desired) (.ok response) := by
  intro answers
  constructor
  · rintro ⟨settingsId, desired, response, conflict, reached⟩
    exact ⟨settingsId, _, desired, response, conflict,
      (ends.heard_iff enabled placed active connected).mpr reached⟩
  · rintro ⟨settingsId, org, desired, response, conflict, heard⟩
    have reached := (ends.heard_iff enabled placed active connected).mp heard
    rcases Protocol.asks_of_told reached with same | ⟨_, same⟩ | same | ⟨_, _, same⟩ <;> cases same
    exact ⟨settingsId, desired, response, conflict, reached⟩

/-- A resource is left to wait exactly when it is heard that the settings can not be read or that
users are in conflict. -/
theorem Ends.awaitChange_iff
    (ends : Ends surroundings intervals now resource cancelled state done)
    (enabled : resource.spec.isEnabled = true) (active : done.cancelled = false) {action : Action}
    (succeeded : done.result = .ok action) : action = .awaitChange ↔
      (∃ org cause, cause ≠ .cancelled ∧
        Heard surroundings resource state done (.federationSettings org) (.error cause)) ∨
      ∃ settingsId org desired, ∃ response : ConnectedOrgConfig,
        response.userConflicts.getD [] ≠ [] ∧
        Heard surroundings resource state done
          (.updateConnectedOrgConfig settingsId org desired) (.ok response) := by
  obtain ⟨placed, outcome, ended, rfl⟩ := ends.action_eq active succeeded
  rw [intervals.actionFor_awaitChange_iff]
  cases connected : (surroundings.connect resource state).1.result with
  | error error =>
      rw [passed_reason_of_error enabled connected ended]
      constructor
      · rintro (other | other) <;> cases other
      · rintro (⟨_, _, -, _, other, -⟩ | ⟨_, _, _, _, -, _, other, -⟩) <;>
          cases connected.symm.trans other
  | ok connection =>
      have ran : passed surroundings resource cancelled state = _ :=
        pass_connected enabled connected
      rw [ran] at ended
      cases ended
      have explained := Protocol.run_explained connection.remote
        (connectedStart surroundings resource cancelled state) enabled connection.orgId
      exact or_congr
        (explained.notAvailable.trans (ends.settingsUnread_iff enabled placed active connected))
        (explained.usersConflict.trans (ends.usersInConflict_iff enabled placed active connected))

end Ending

end Reconciliation

section Parking

open Reconciliation

variable (surroundings : Surroundings σ) (intervals : Intervals) (now : Timestamp)
  {resource : FederatedAuth} (cancelled : Bool) (state : σ)

/-- In a reconciliation that is not cut short, a call that fails without telling that something is
missing leads to another attempt, unless it reads the federation settings, which leads to waiting for
a change. The resource is left to wait exactly when the settings can not be read, for whatever cause,
or when a write of the configuration is answered with users in conflict. -/
theorem parked_by_settings_or_conflict (enabled : resource.spec.isEnabled = true)
    (active : (reconcile surroundings intervals now resource cancelled state).cancelled = false) :
    let done := reconcile surroundings intervals now resource cancelled state
    (∀ call cause, Heard surroundings resource state done call (.error cause) →
      cause.isTransient = true →
      LeadsTo surroundings resource cancelled state done
        (if call.readsSettings then .awaitChange else .requeue intervals.retry)) ∧
    ∀ action, done.result = .ok action → (action = .awaitChange ↔
      (∃ org cause, cause ≠ .cancelled ∧
        Heard surroundings resource state done (.federationSettings org) (.error cause)) ∨
      ∃ settingsId org desired, ∃ response : ConnectedOrgConfig,
        response.userConflicts.getD [] ≠ [] ∧
        Heard surroundings resource state done
          (.updateConnectedOrgConfig settingsId org desired) (.ok response)) := by
  intro done
  have ends := Reconciliation.ends surroundings intervals now resource cancelled state
  exact ⟨fun call cause heard transient => ends.leadsTo_of_transient enabled active heard transient,
    fun action succeeded => ends.awaitChange_iff enabled active succeeded⟩

/-- A rehearsal that resets the connection of every call of a method. -/
def resettingRehearsal (method : String) : Rehearsal :=
  ⟨{ Pass.unsettledMemory with
      faults := [⟨method, none, none, false, false, some (.transport "connection reset")⟩] },
    .ok "org", false, [], []⟩

/-- A resource that has no status yet and gives a group a role. -/
def grantingResource : FederatedAuth :=
  ⟨⟨some "federation", none, some "team", some 1, []⟩, Pass.grantingSpec, none⟩

/-- A reset while the configuration is read leads to another attempt. -/
theorem parked_by_settings_or_conflict_resetting :
    let start := resettingRehearsal "connected_org_config"
    let done := reconcile Rehearsal.surroundings .standard (.ofSecond 1) grantingResource false start
    grantingResource.spec.isEnabled = true ∧ done.cancelled = false ∧
      Heard Rehearsal.surroundings grantingResource start done (.connectedOrgConfig "" "org")
        (.error (.transport "connection reset")) ∧
      LeadsTo Rehearsal.surroundings grantingResource false start done (.requeue 30) := by
  intro start done
  have active : done.cancelled = false := rfl
  have heard : Heard Rehearsal.surroundings grantingResource start done
      (.connectedOrgConfig "" "org") (.error (.transport "connection reset")) :=
    ⟨⟨"org", Rehearsal.remote⟩, rfl, [.federationSettings "org"], [], rfl, rfl⟩
  exact ⟨rfl, active, heard, (parked_by_settings_or_conflict Rehearsal.surroundings .standard
    (.ofSecond 1) false start rfl active).1 _ _ heard rfl⟩

/-- A reset while the settings are read leads to waiting for a change, although nothing was
reported to be missing. -/
theorem parked_by_reset :
    let start := resettingRehearsal "federation_settings"
    let done := reconcile Rehearsal.surroundings .standard (.ofSecond 1) grantingResource false start
    grantingResource.spec.isEnabled = true ∧ done.cancelled = false ∧
      Heard Rehearsal.surroundings grantingResource start done (.federationSettings "org")
        (.error (.transport "connection reset")) ∧
      done.result = .ok .awaitChange :=
  ⟨rfl, rfl, ⟨⟨"org", Rehearsal.remote⟩, rfl, [], [], rfl, rfl⟩, rfl⟩

end Parking

end OrgFederation

import OrgFederation.Proofs.Pass.Course

namespace OrgFederation

variable {σ : Type}

namespace Protocol

/-- The federation settings can not be read. -/
def SettingsUnread (orgId : String) (course : List Event) : Prop :=
  ∃ cause, cause ≠ .cancelled ∧ .told (.federationSettings orgId) (.error cause) ∈ course

/-- The configuration can not be read, or it names no identity provider. -/
def Unconnected (orgId : String) (course : List Event) : Prop :=
  ∃ settingsId,
    (∃ cause, cause ≠ .cancelled ∧
      .told (.connectedOrgConfig settingsId orgId) (.error cause) ∈ course) ∨
    ∃ config : ConnectedOrgConfig, config.identityProviderId = "" ∧
      .told (.connectedOrgConfig settingsId orgId) (.ok config) ∈ course

/-- A write of the configuration is answered with users in conflict. -/
def UsersInConflict (orgId : String) (course : List Event) : Prop :=
  ∃ settingsId desired, ∃ response : ConnectedOrgConfig, response.userConflicts.getD [] ≠ [] ∧
    .told (.updateConnectedOrgConfig settingsId orgId desired) (.ok response) ∈ course

/-- No step that is reached fails, and no users are in conflict. -/
def AllSucceed (orgId : String) (course : List Event) : Prop :=
  (∀ event ∈ course, event.fails orgId = false) ∧ ¬ UsersInConflict orgId course

namespace Event

variable {orgId : String} {event : Event}

/-- An event that fails gives a reason. -/
theorem reason_of_fails (failed : event.fails orgId = true) : event.reason? orgId ≠ none := by
  cases event with
  | needed text => simp [reason?, failed]
  | told call answer =>
      cases answer with
      | error cause => cases call <;> simp [reason?, failed]
      | ok value =>
          cases call with
          | projectByName name => simp [reason?, failed]
          | _ => cases failed

/-- A call that fails without being cancelled gives its own reason. -/
theorem reasonFor_of_ne {cause : CallError} (other : cause ≠ .cancelled)
    (reason : FailureReason) : reasonFor reason cause = reason := by
  cases cause <;> simp [reasonFor] at other ⊢

/-- Where a reason comes from. -/
theorem reason_cases {reason : FailureReason} (given : event.reason? orgId = some reason) :
    (∃ org cause, event = .told (.federationSettings org) (.error cause) ∧
      reason = reasonFor .federatedAuthNotAvailable cause) ∨
    (∃ settingsId org cause, event = .told (.connectedOrgConfig settingsId org) (.error cause) ∧
      reason = reasonFor .federatedAuthOrgNotConnected cause) ∨
    (∃ settingsId org, ∃ config : ConnectedOrgConfig,
      event = .told (.connectedOrgConfig settingsId org) (.ok config) ∧
      config.identityProviderId = "" ∧ reason = .federatedAuthOrgNotConnected) ∨
    (∃ settingsId org desired, ∃ response : ConnectedOrgConfig,
      event = .told (.updateConnectedOrgConfig settingsId org desired) (.ok response) ∧
      response.userConflicts.getD [] ≠ [] ∧ reason = .federatedAuthUsersConflict) ∨
    (event.fails orgId = true ∧ reason = .internal) := by
  have inner (plain : event.reason? orgId = if event.fails orgId then some .internal else none) :
      event.fails orgId = true ∧ reason = .internal := by
    rw [plain] at given
    split at given
    · exact ⟨‹_›, (Option.some.inj given).symm⟩
    · cases given
  cases event with
  | needed text => exact .inr (.inr (.inr (.inr (inner rfl))))
  | told call answer =>
      cases call with
      | federationSettings org =>
          cases answer with
          | error cause => exact .inl ⟨org, cause, rfl, (Option.some.inj given).symm⟩
          | ok settings => cases given
      | connectedOrgConfig settingsId org =>
          cases answer with
          | error cause =>
              exact .inr (.inl ⟨settingsId, org, cause, rfl, (Option.some.inj given).symm⟩)
          | ok config =>
              rw [reason?] at given
              split at given
              · rename_i empty
                exact .inr (.inr (.inl ⟨settingsId, org, config, rfl, by simpa using empty,
                  (Option.some.inj given).symm⟩))
              · cases given
      | updateConnectedOrgConfig settingsId org desired =>
          cases answer with
          | error cause => exact .inr (.inr (.inr (.inr (inner rfl))))
          | ok response =>
              rw [reason?] at given
              split at given
              · cases given
              · rename_i conflict
                simp only [ConnectedOrgConfig.usersInConflict, List.map_eq_nil_iff] at conflict
                exact .inr (.inr (.inr (.inl ⟨settingsId, org, desired, response, rfl, conflict,
                  (Option.some.inj given).symm⟩)))
      | _ => exact .inr (.inr (.inr (.inr (inner rfl))))

end Event

section Explanations

variable {orgId : String} {answers : Answers} {spec : Spec} {reason : FailureReason}

/-- A pass fails for a reason that is not internal exactly when an event of its course gives it. -/
theorem reason_iff (own : reason ≠ .internal) :
    (course orgId answers [] (plan spec orgId answers)).findSome? (Event.reason? orgId) =
        some reason ↔
      ∃ event ∈ course orgId answers [] (plan spec orgId answers),
        event.reason? orgId = some reason := by
  constructor
  · exact List.exists_of_findSome?_eq_some
  · rintro ⟨event, reached, given⟩
    cases event with
    | told call answer =>
        rw [reason_of_told reached (.inl (by simp [given])), given]
    | needed text =>
        rcases Event.reason_cases given with ⟨_, _, same, _⟩ | ⟨_, _, _, same, _⟩ |
          ⟨_, _, _, same, _⟩ | ⟨_, _, _, _, same, _⟩ | ⟨_, internal⟩
        · cases same
        · cases same
        · cases same
        · cases same
        · exact absurd internal own

/-- An event that is told comes from a planned call. -/
theorem asks_of_told {call : Call} {answer : Except CallError call.Answer}
    (reached : .told call answer ∈ course orgId answers [] (plan spec orgId answers)) :
    call = .federationSettings orgId ∨ (∃ settingsId, call = .connectedOrgConfig settingsId orgId) ∨
      call.isInner = true ∨
      ∃ settingsId desired, call = .updateConnectedOrgConfig settingsId orgId desired := by
  rcases planned_of_mem_course reached with ⟨_, _, same, planned⟩ | ⟨_, same, _⟩
  · cases same
    exact plan_asks planned
  · cases same

/-- A reason that an event of a pass gives is explained by its course. -/
theorem explained_of_reason {event : Event}
    (reached : event ∈ course orgId answers [] (plan spec orgId answers))
    (given : event.reason? orgId = some reason) :
    let course := course orgId answers [] (plan spec orgId answers)
    (SettingsUnread orgId course ∧ reason = .federatedAuthNotAvailable) ∨
      (Unconnected orgId course ∧ reason = .federatedAuthOrgNotConnected) ∨
      (UsersInConflict orgId course ∧ reason = .federatedAuthUsersConflict) ∨
      (event.fails orgId = true ∧ reason = .internal) := by
  rcases Event.reason_cases given with ⟨org, cause, rfl, told⟩ |
    ⟨settingsId, org, cause, rfl, told⟩ | ⟨settingsId, org, config, rfl, empty, told⟩ |
    ⟨settingsId, org, desired, response, rfl, conflict, told⟩ | inner
  · rcases asks_of_told reached with same | ⟨_, same⟩ | same | ⟨_, _, same⟩ <;> cases same
    cases cause with
    | cancelled => exact .inr (.inr (.inr ⟨rfl, told⟩))
    | _ => exact .inl ⟨⟨_, by simp, reached⟩, told⟩
  · rcases asks_of_told reached with same | ⟨_, same⟩ | same | ⟨_, _, same⟩ <;> cases same
    cases cause with
    | cancelled => exact .inr (.inr (.inr ⟨rfl, told⟩))
    | _ => exact .inr (.inl ⟨⟨settingsId, .inl ⟨_, by simp, reached⟩⟩, told⟩)
  · rcases asks_of_told reached with same | ⟨_, same⟩ | same | ⟨_, _, same⟩ <;> cases same
    exact .inr (.inl ⟨⟨settingsId, .inr ⟨config, empty, reached⟩⟩, told⟩)
  · rcases asks_of_told reached with same | ⟨_, same⟩ | same | ⟨_, _, same⟩ <;> cases same
    exact .inr (.inr (.inl ⟨⟨settingsId, desired, response, conflict, reached⟩, told⟩))
  · exact .inr (.inr (.inr inner))

/-- The federation settings are not available exactly when they can not be read. -/
theorem unavailable_iff :
    (course orgId answers [] (plan spec orgId answers)).findSome? (Event.reason? orgId) =
        some .federatedAuthNotAvailable ↔
      SettingsUnread orgId (course orgId answers [] (plan spec orgId answers)) := by
  rw [reason_iff (by simp)]
  constructor
  · rintro ⟨event, reached, given⟩
    rcases explained_of_reason reached given with ⟨unread, _⟩ | ⟨_, told⟩ | ⟨_, told⟩ | ⟨_, told⟩
    · exact unread
    all_goals cases told
  · rintro ⟨cause, other, reached⟩
    exact ⟨_, reached, congrArg some (Event.reasonFor_of_ne other _)⟩

/-- An organization is not connected exactly when its configuration can not be read or names no
identity provider. -/
theorem unconnected_iff :
    (course orgId answers [] (plan spec orgId answers)).findSome? (Event.reason? orgId) =
        some .federatedAuthOrgNotConnected ↔
      Unconnected orgId (course orgId answers [] (plan spec orgId answers)) := by
  rw [reason_iff (by simp)]
  constructor
  · rintro ⟨event, reached, given⟩
    rcases explained_of_reason reached given with ⟨_, told⟩ | ⟨unlinked, _⟩ | ⟨_, told⟩ | ⟨_, told⟩
    · cases told
    · exact unlinked
    all_goals cases told
  · rintro ⟨settingsId, ⟨cause, other, reached⟩ | ⟨config, empty, reached⟩⟩
    · exact ⟨_, reached, congrArg some (Event.reasonFor_of_ne other _)⟩
    · refine ⟨_, reached, ?_⟩
      simp [Event.reason?, empty]

/-- Users are in conflict exactly when a write of the configuration is answered with them. -/
theorem usersInConflict_iff :
    (course orgId answers [] (plan spec orgId answers)).findSome? (Event.reason? orgId) =
        some .federatedAuthUsersConflict ↔
      UsersInConflict orgId (course orgId answers [] (plan spec orgId answers)) := by
  rw [reason_iff (by simp)]
  constructor
  · rintro ⟨event, reached, given⟩
    rcases explained_of_reason reached given with ⟨_, told⟩ | ⟨_, told⟩ | ⟨conflict, _⟩ | ⟨_, told⟩
    · cases told
    · cases told
    · exact conflict
    · cases told
  · rintro ⟨settingsId, desired, response, conflict, reached⟩
    refine ⟨_, reached, ?_⟩
    simp [Event.reason?, ConnectedOrgConfig.usersInConflict, conflict]

/-- A configuration that is told is followed by the need of its identity provider. -/
theorem needed_of_config {settingsId : String} {config : ConnectedOrgConfig}
    (reached : .told (.connectedOrgConfig settingsId orgId) (.ok config) ∈
      course orgId answers [] (plan spec orgId answers)) :
    .needed config.identityProviderId ∈ course orgId answers [] (plan spec orgId answers) := by
  cases settings : answers [] (.federationSettings orgId) with
  | error cause =>
      rw [course_unopened spec settings] at reached
      cases List.mem_singleton.mp reached
  | ok found =>
      cases read : answers [.federationSettings orgId]
          (.connectedOrgConfig (FederationSettings.id found) orgId) with
      | error cause =>
          rw [course_unread spec settings read] at reached
          rcases List.mem_cons.mp reached with first | second
          · cases first
          · cases List.mem_singleton.mp second
      | ok observed =>
          rcases opened_cases settings read reached with same | same | same | ⟨_, behind⟩
          · cases same
          · cases same
            simp [course_opened spec settings read]
          · cases same
          · -- Behind the opening no configuration is read any more.
            rcases planned_of_mem_course behind with ⟨_, _, same, planned⟩ | ⟨_, same, _⟩
            · cases same
              rcases linkedPlan_asks planned with inner | ⟨_, write⟩
              · cases inner
              · cases write
            · cases same

/-- A pass has no reason to fail exactly when every step that it reaches succeeds. -/
theorem allSucceed_iff :
    (course orgId answers [] (plan spec orgId answers)).findSome? (Event.reason? orgId) =
        none ↔
      AllSucceed orgId (course orgId answers [] (plan spec orgId answers)) := by
  constructor
  · intro silent
    refine ⟨fun event reached => ?_, fun conflict => ?_⟩
    · cases failed : event.fails orgId with
      | false => rfl
      | true =>
          have quiet := List.findSome?_eq_none_iff.mp silent event reached
          exact absurd quiet (Event.reason_of_fails failed)
    · rw [usersInConflict_iff.mpr conflict] at silent
      cases silent
  · rintro ⟨succeed, clear⟩
    rw [List.findSome?_eq_none_iff]
    intro event reached
    cases given : event.reason? orgId with
    | none => rfl
    | some reason =>
        rcases explained_of_reason reached given with ⟨⟨_, _, unread⟩, _⟩ |
          ⟨⟨_, ⟨_, _, unread⟩ | ⟨_, empty, read⟩⟩, _⟩ | ⟨conflict, _⟩ | ⟨failed, _⟩
        · cases succeed _ unread
        · cases succeed _ unread
        · have given := succeed _ (needed_of_config read)
          simp [Event.fails, empty] at given
        · exact absurd conflict clear
        · rw [succeed event reached] at failed
          cases failed

end Explanations

/-- How a pass ended is explained by its course. Whatever is not explained by what the organization
answers, be it a call that was cancelled or a later step, is an internal failure. -/
structure Explains (orgId : String) (course : List Event) (outcome : Outcome) : Prop where
  settled : outcome = .settled none ↔ AllSucceed orgId course
  notAvailable : outcome.reason? = some .federatedAuthNotAvailable ↔ SettingsUnread orgId course
  notConnected : outcome.reason? = some .federatedAuthOrgNotConnected ↔ Unconnected orgId course
  usersConflict : outcome.reason? = some .federatedAuthUsersConflict ↔ UsersInConflict orgId course
  internal : outcome.reason? = some .internal ↔
    ¬ AllSucceed orgId course ∧ ¬ SettingsUnread orgId course ∧ ¬ Unconnected orgId course ∧
      ¬ UsersInConflict orgId course

section Passes

variable {spec : Spec}

/-- The reason for which an enabled pass fails is the first one in its course. -/
theorem reason_of_run (remote : Remote σ) (start : Trace σ) (enabled : spec.isEnabled = true)
    (orgId : String) :
    let answers := remote.attempt start
    let outcome := (Pass.run remote spec orgId start).1
    outcome.reason? =
        (course orgId answers [] (plan spec orgId answers)).findSome? (Event.reason? orgId) ∧
      (outcome.reason? = none → outcome = .settled none) := by
  intro answers outcome
  have concluded := steps_concludes remote start spec orgId
  rw [Concludes] at concluded
  change failureReason? ((Convergence.steps remote spec orgId).run start).1 = _ at concluded
  rw [← concluded]
  simp only [outcome, Pass.run_enabled remote orgId start enabled]
  rcases (Convergence.steps remote spec orgId).run start with ⟨result, later⟩
  cases result with
  | ok value => exact ⟨rfl, fun _ => rfl⟩
  | error failure =>
      refine ⟨rfl, fun silent => ?_⟩
      cases silent

/-- The course of an enabled pass explains how it ends. -/
theorem run_explained (remote : Remote σ) (start : Trace σ) (enabled : spec.isEnabled = true)
    (orgId : String) :
    let answers := remote.attempt start
    Explains orgId (course orgId answers [] (plan spec orgId answers))
      (Pass.run remote spec orgId start).1 := by
  intro answers
  obtain ⟨told, silent⟩ := reason_of_run remote start enabled orgId
  refine ⟨⟨fun same => ?_, fun succeed => ?_⟩, ?_, ?_, ?_, ?_⟩
  · rw [← allSucceed_iff, ← told, same]
    rfl
  · exact silent (told.trans (allSucceed_iff.mpr succeed))
  · rw [told, unavailable_iff]
  · rw [told, unconnected_iff]
  · rw [told, usersInConflict_iff]
  · rw [told, ← allSucceed_iff, ← unavailable_iff, ← unconnected_iff, ← usersInConflict_iff]
    cases given : (course orgId answers [] (plan spec orgId answers)).findSome?
        (Event.reason? orgId) with
    | none => simp
    | some reason =>
        obtain ⟨event, reached, own⟩ := List.exists_of_findSome?_eq_some given
        rcases explained_of_reason reached own with ⟨_, rfl⟩ | ⟨_, rfl⟩ | ⟨_, rfl⟩ | ⟨_, rfl⟩ <;>
          simp

end Passes

end Protocol

end OrgFederation

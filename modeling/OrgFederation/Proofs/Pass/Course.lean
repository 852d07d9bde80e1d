import OrgFederation.Proofs.Pass.Protocol

namespace OrgFederation

variable {σ α β : Type}

/-- The call writes the configuration of an organization. -/
def Call.writesConfig : Call → Bool
  | .updateConnectedOrgConfig _ _ _ => true
  | _ => false

/-- The calls about an identity provider and the lookups, which fail for internal reasons only. -/
def Call.isInner : Call → Bool
  | .identityProvider _ _ | .updateIdentityProvider _ _ _ | .projectByName _ => true
  | _ => false

/-- A write of the configuration is no inner call. -/
theorem Call.inner_of_writesConfig {call : Call} (writes : call.writesConfig = true) :
    call.isInner = false := by
  cases call <;> simp [writesConfig, isInner] at writes ⊢

/-- A step fails inside when it fails for internal reasons only. -/
def PassM.FailsInside (step : PassM σ PassError α) : Prop :=
  step.FailsOnly fun failure _ => failure.reason = .internal

namespace PassM.FailsInside

/-- The search for a configuration fails inside, whether it is cancelled or not. -/
theorem configFailure (step : PassM σ MappingError α) :
    (step.failAs Convergence.configFailure).FailsInside := by
  refine (FailsOnly.any step).failAs fun cause later _ => ?_
  rw [Convergence.configFailure]
  split <;> rfl

theorem settleProvider (remote : Remote σ) (spec : Spec) (settingsId providerId : String) :
    (Convergence.settleProvider remote spec settingsId providerId).FailsInside := by
  refine FailsOnly.settleProvider (fun call => ?_) spec settingsId providerId
  refine (FailsOnly.any _).failAs fun cause later _ => ?_
  cases cause <;> rfl

end PassM.FailsInside

namespace Protocol

/-- At a step of its plan a pass is told the result of a call, or it needs a text. -/
inductive Event where
  | told (call : Call) (answer : Except CallError call.Answer)
  | needed (text : String)

namespace Event

/-- The call of an event, if it has one. -/
def call? : Event → Option Call
  | .told call _ => some call
  | .needed _ => none

/-- A plan stops at an event that fails. -/
def fails (orgId : String) : Event → Bool
  | .told call answer => Protocol.fails orgId call answer
  | .needed text => text.isEmpty

/-- The reason for a failed call, which is internal when the call is cancelled. -/
def reasonFor (reason : FailureReason) : CallError → FailureReason
  | .cancelled => .internal
  | _ => reason

/-- The reason that an event gives a pass to fail, if it does. -/
def reason? (orgId : String) : Event → Option FailureReason
  | .told (.federationSettings _) (.error cause) =>
      some (reasonFor .federatedAuthNotAvailable cause)
  | .told (.connectedOrgConfig _ _) (.error cause) =>
      some (reasonFor .federatedAuthOrgNotConnected cause)
  | .told (.connectedOrgConfig _ _) (.ok config) =>
      if (ConnectedOrgConfig.identityProviderId config).isEmpty then
        some .federatedAuthOrgNotConnected
      else
        none
  | .told (.updateConnectedOrgConfig _ _ _) (.ok response) =>
      if ConnectedOrgConfig.usersInConflict response = [] then
        none
      else
        some .federatedAuthUsersConflict
  | event => if event.fails orgId then some .internal else none

/-- The events of inner calls and of needs give internal reasons only. -/
theorem reason_of_inner {orgId : String} {call : Call} (inner : call.isInner = true)
    (answer : Except CallError call.Answer) :
    (told call answer).reason? orgId =
      if (told call answer).fails orgId then some .internal else none := by
  cases call with
  | federationSettings _ => cases inner
  | connectedOrgConfig _ _ => cases inner
  | updateConnectedOrgConfig _ _ _ => cases inner
  | _ => rfl

/-- A call that is cancelled gives an internal reason. -/
theorem reason_of_cancelled (orgId : String) (call : Call) :
    (told call (.error .cancelled)).reason? orgId = some .internal := by
  cases call <;> rfl

end Event

section Course

variable (orgId : String) (answers : Answers)

/-- The events of a plan that are reached behind earlier calls. The first one that fails is the
last. -/
def course : List Call → List Step → List Event
  | _, [] => []
  | earlier, .needs text :: rest =>
      .needed text :: if text.isEmpty then [] else course earlier rest
  | earlier, .asks call :: rest =>
      .told call (answers earlier call) ::
        if fails orgId call (answers earlier call) then [] else course (earlier ++ [call]) rest

variable {orgId : String} {answers : Answers}

/-- The calls of a course are the planned calls that are reached. -/
theorem course_calls (earlier : List Call) (plan : List Step) :
    (course orgId answers earlier plan).filterMap Event.call? =
      callsMade orgId answers earlier plan := by
  induction plan generalizing earlier with
  | nil => rfl
  | cons step rest ih =>
      cases step with
      | needs text =>
          rw [course, callsMade, List.filterMap_cons_none (by rfl)]
          cases text.isEmpty with
          | true => rfl
          | false => exact ih earlier
      | asks call =>
          rw [course, callsMade, List.filterMap_cons_some (by rfl)]
          cases fails orgId call (answers earlier call) with
          | true => rfl
          | false => exact congrArg (call :: ·) (ih _)

/-- A plan is passed when no event of its course fails. -/
theorem passes_eq_all (earlier : List Call) (plan : List Step) :
    passes orgId answers earlier plan =
      (course orgId answers earlier plan).all fun event => !event.fails orgId := by
  induction plan generalizing earlier with
  | nil => rfl
  | cons step rest ih =>
      cases step with
      | needs text =>
          rw [course, passes, List.all_cons, Event.fails, ih]
          cases text.isEmpty <;> rfl
      | asks call =>
          rw [course, passes, List.all_cons, Event.fails, ih]
          cases fails orgId call (answers earlier call) <;> rfl

/-- The events of a course come from the steps of its plan. -/
theorem planned_of_mem_course {earlier : List Call} {plan : List Step} {event : Event}
    (reached : event ∈ course orgId answers earlier plan) :
    (∃ call answer, event = .told call answer ∧ .asks call ∈ plan) ∨
      ∃ text, event = .needed text ∧ .needs text ∈ plan := by
  induction plan generalizing earlier with
  | nil => cases reached
  | cons step rest ih =>
      have further {behind : List Call} (member : event ∈ course orgId answers behind rest) :
          (∃ call answer, event = .told call answer ∧ .asks call ∈ step :: rest) ∨
            ∃ text, event = .needed text ∧ .needs text ∈ step :: rest := by
        rcases ih member with ⟨call, answer, same, planned⟩ | ⟨text, same, planned⟩
        · exact .inl ⟨call, answer, same, List.mem_cons_of_mem _ planned⟩
        · exact .inr ⟨text, same, List.mem_cons_of_mem _ planned⟩
      cases step with
      | needs text =>
          rcases List.mem_cons.mp reached with rfl | later
          · exact .inr ⟨text, rfl, List.mem_cons_self⟩
          · split at later
            · cases later
            · exact further later
      | asks call =>
          rcases List.mem_cons.mp reached with rfl | later
          · exact .inl ⟨call, _, rfl, List.mem_cons_self⟩
          · split at later
            · cases later
            · exact further later

/-- A course goes on with another plan when its own is passed. -/
theorem course_append (earlier : List Call) (first second : List Step) :
    course orgId answers earlier (first ++ second) =
      course orgId answers earlier first ++
        if passes orgId answers earlier first then
          course orgId answers (earlier ++ first.filterMap Step.call?) second
        else
          [] := by
  induction first generalizing earlier with
  | nil => simp [course, passes]
  | cons step rest ih =>
      cases step with
      | needs text =>
          cases empty : text.isEmpty <;>
            simp [course, passes, empty, ih, List.filterMap_cons, Step.call?]
      | asks call =>
          cases failed : fails orgId call (answers earlier call) <;>
            simp [course, passes, failed, ih, Step.call?]

/-- The first reason in a list of inner events is internal, if there is one. -/
theorem findSome_of_inner {events : List Event}
    (inner : ∀ event ∈ events,
      event.reason? orgId = if event.fails orgId then some .internal else none) :
    events.findSome? (Event.reason? orgId) =
      if events.all fun event => !event.fails orgId then none else some .internal := by
  induction events with
  | nil => rfl
  | cons event rest ih =>
      have later := ih fun other member => inner other (List.mem_cons_of_mem _ member)
      rw [List.findSome?_cons, List.all_cons, inner event List.mem_cons_self]
      cases event.fails orgId with
      | true => rfl
      | false => exact later

/-- A plan of inner calls has inner events. -/
theorem inner_of_plan {earlier : List Call} {plan : List Step}
    (inner : ∀ call, .asks call ∈ plan → call.isInner = true) :
    ∀ event ∈ course orgId answers earlier plan,
      event.reason? orgId = if event.fails orgId then some .internal else none := by
  intro event reached
  rcases planned_of_mem_course reached with ⟨call, answer, rfl, planned⟩ | ⟨text, rfl, _⟩
  · exact Event.reason_of_inner (inner call planned) answer
  · rfl

variable {spec : Spec} {settings : FederationSettings} {observed : ConnectedOrgConfig}
  {cause : CallError}

/-- A pass comes to one event when the federation settings can not be read. -/
theorem course_unopened (spec : Spec)
    (opened : answers [] (.federationSettings orgId) = .error cause) :
    course orgId answers [] (plan spec orgId answers) =
      [.told (.federationSettings orgId) (.error cause)] := by
  rw [plan, course, opened]
  rfl

/-- A pass comes to two events when the configuration can not be read. -/
theorem course_unread (spec : Spec)
    (opened : answers [] (.federationSettings orgId) = .ok settings)
    (read : answers [.federationSettings orgId] (.connectedOrgConfig settings.id orgId) =
      .error cause) :
    course orgId answers [] (plan spec orgId answers) =
      [.told (.federationSettings orgId) (.ok settings),
        .told (.connectedOrgConfig settings.id orgId) (.error cause)] := by
  rw [plan, opened, course, opened, course]
  simp only [reported, read, List.nil_append]
  rfl

/-- A pass needs an identity provider behind its opening, and goes on when there is one. -/
theorem course_opened (spec : Spec)
    (opened : answers [] (.federationSettings orgId) = .ok settings)
    (read : answers [.federationSettings orgId] (.connectedOrgConfig settings.id orgId) =
      .ok observed) :
    course orgId answers [] (plan spec orgId answers) =
      .told (.federationSettings orgId) (.ok settings) ::
        .told (.connectedOrgConfig settings.id orgId) (.ok observed) ::
        .needed observed.identityProviderId ::
        if observed.identityProviderId.isEmpty then
          []
        else
          course orgId answers [.federationSettings orgId, .connectedOrgConfig settings.id orgId]
            (linkedPlan spec orgId settings.id observed answers) := by
  rw [plan, opened, course, opened, course]
  simp only [reported, read, List.nil_append, course]
  rfl

/-- The calls of lookups look up projects by name. -/
theorem asks_of_lookups {names : List String} {call : Call}
    (planned : .asks call ∈ lookups names) : ∃ name, call = .projectByName name := by
  obtain ⟨name, _, member⟩ := List.mem_flatMap.mp planned
  simp only [List.mem_cons, reduceCtorEq, Step.asks.injEq, List.not_mem_nil, or_false,
    false_or] at member
  exact ⟨name, member⟩

/-- The settings of an identity provider are read and perhaps written, without any need. -/
theorem steps_of_providerPlan {settingsId providerId : String}
    {provider : IdentityProviderSettings} {step : Step}
    (planned : step ∈ providerPlan spec settingsId providerId provider) :
    step = .asks (.identityProvider settingsId providerId) ∨
      ∃ written, step = .asks (.updateIdentityProvider settingsId providerId written) := by
  rw [providerPlan] at planned
  split at planned <;> simp only [List.mem_cons, List.not_mem_nil, or_false] at planned
  · exact planned.imp_right fun update => ⟨_, update⟩
  · exact .inl planned

/-- The events of a pass behind its opening: those of the opening itself, and those of settling a
linked organization. -/
theorem opened_cases
    (opened : answers [] (.federationSettings orgId) = .ok settings)
    (read : answers [.federationSettings orgId] (.connectedOrgConfig settings.id orgId) =
      .ok observed) {event : Event}
    (reached : event ∈ course orgId answers [] (plan spec orgId answers)) :
    event = .told (.federationSettings orgId) (.ok settings) ∨
      event = .told (.connectedOrgConfig settings.id orgId) (.ok observed) ∨
      event = .needed observed.identityProviderId ∨
      (observed.identityProviderId.isEmpty = false ∧
        event ∈ course orgId answers
          [.federationSettings orgId, .connectedOrgConfig settings.id orgId]
          (linkedPlan spec orgId settings.id observed answers)) := by
  rw [course_opened spec opened read, List.mem_cons, List.mem_cons, List.mem_cons] at reached
  refine reached.imp_right (.imp_right (.imp_right fun behind => ?_))
  split at behind
  · cases behind
  · exact ⟨Bool.eq_false_iff.mpr ‹_›, behind⟩

/-- A lookup is an inner call. -/
theorem lookups_inner (names : List String) :
    ∀ call, .asks call ∈ lookups names → call.isInner = true := by
  intro call planned
  obtain ⟨name, rfl⟩ := asks_of_lookups planned
  rfl

/-- The calls about an identity provider are inner ones. -/
theorem providerPlan_inner (spec : Spec) (settingsId providerId : String)
    (provider : IdentityProviderSettings) :
    ∀ call, .asks call ∈ providerPlan spec settingsId providerId provider →
      call.isInner = true := by
  intro call planned
  rcases steps_of_providerPlan planned with read | ⟨_, update⟩
  · rw [Step.asks.inj read]
    rfl
  · rw [Step.asks.inj update]
    rfl

/-- Behind its opening, a pass plans inner calls and then at most one write of the configuration. -/
theorem linkedPlan_inner (spec : Spec) (orgId settingsId : String) (observed : ConnectedOrgConfig)
    (answers : Answers) :
    ∃ first desired, (∀ call, .asks call ∈ first → call.isInner = true) ∧
      linkedPlan spec orgId settingsId observed answers =
        first ++ configPlan settingsId orgId desired observed := by
  rw [linkedPlan, ← List.append_assoc]
  refine ⟨_, _, ?_, rfl⟩
  intro call planned
  rcases List.mem_append.mp planned with lookup | about
  · exact lookups_inner _ call lookup
  · exact providerPlan_inner _ _ _ _ call about

/-- Behind its opening, a pass makes inner calls and writes the configuration. -/
theorem linkedPlan_asks {settingsId : String} {call : Call}
    (planned : .asks call ∈ linkedPlan spec orgId settingsId observed answers) :
    call.isInner = true ∨
      ∃ desired, call = .updateConnectedOrgConfig settingsId orgId desired := by
  obtain ⟨first, desired, inner, same⟩ := linkedPlan_inner spec orgId settingsId observed answers
  rw [same] at planned
  rcases List.mem_append.mp planned with about | last
  · exact .inl (inner call about)
  · rw [configPlan] at last
    split at last
    · cases last
    · exact .inr ⟨desired, Step.asks.inj (List.mem_singleton.mp last)⟩

/-- Behind inner calls, an event that has a reason or writes the configuration decides. -/
theorem reason_before_write {first : List Step}
    (inner : ∀ call, .asks call ∈ first → call.isInner = true) {earlier : List Call}
    {settingsId : String} {desired : DesiredOrgConfig} {call : Call}
    {answer : Except CallError call.Answer}
    (reached : .told call answer ∈
      course orgId answers earlier (first ++ configPlan settingsId orgId desired observed))
    (speaks : (Event.told call answer).reason? orgId ≠ none ∨ call.writesConfig = true) :
    (course orgId answers earlier
      (first ++ configPlan settingsId orgId desired observed)).findSome? (Event.reason? orgId) =
        (Event.told call answer).reason? orgId := by
  have quiet : ∀ event ∈ course orgId answers earlier first,
      event.reason? orgId = if event.fails orgId then some .internal else none :=
    inner_of_plan inner
  rw [course_append] at reached ⊢
  rw [List.findSome?_append, findSome_of_inner quiet, ← passes_eq_all]
  rcases List.mem_append.mp reached with among | last
  · -- An inner event has a reason only when it fails, and then no other one comes behind it.
    rcases planned_of_mem_course among with ⟨_, _, same, planned⟩ | ⟨_, same, _⟩
    · cases same
      have failed : (Event.told call answer).fails orgId = true := by
        rcases speaks with told | writes
        · rw [quiet _ among] at told
          simpa using told
        · cases (inner call planned).symm.trans (Call.inner_of_writesConfig writes)
      have stopped : passes orgId answers earlier first = false := by
        rw [passes_eq_all, List.all_eq_false]
        exact ⟨_, among, by simp [failed]⟩
      rw [quiet _ among, failed, stopped]
      rfl
    · cases same
  · cases passed : passes orgId answers earlier first with
    | false =>
        rw [passed] at last
        cases last
    | true =>
        rw [passed, if_pos rfl, configPlan] at last
        rw [if_pos rfl, if_pos rfl, configPlan]
        split at last
        · cases last
        · rename_i differs
          have single (behind : List Call) (update : Call) :
              course orgId answers behind [.asks update] =
                [.told update (answers behind update)] := by
            rw [course, course, ite_self]
          rw [single, List.mem_singleton] at last
          rw [if_neg differs, single, last, List.findSome?_singleton]
          rfl

/-- The calls of a plan read the settings and the configuration, are inner ones, or write the
configuration, all of the organization of the pass. -/
theorem plan_asks {call : Call} (planned : .asks call ∈ plan spec orgId answers) :
    call = .federationSettings orgId ∨ (∃ settingsId, call = .connectedOrgConfig settingsId orgId) ∨
      call.isInner = true ∨
      ∃ settingsId desired, call = .updateConnectedOrgConfig settingsId orgId desired := by
  rcases List.mem_cons.mp planned with first | planned
  · exact .inl (Step.asks.inj first)
  rcases List.mem_cons.mp planned with second | planned
  · exact .inr (.inl ⟨_, Step.asks.inj second⟩)
  rcases List.mem_cons.mp planned with third | planned
  · cases third
  rcases linkedPlan_asks planned with inner | ⟨_, write⟩
  · exact .inr (.inr (.inl inner))
  · exact .inr (.inr (.inr ⟨_, _, write⟩))

/-- A call that gives a reason, or that writes the configuration, decides how a pass ends. -/
theorem reason_of_told {call : Call} {answer : Except CallError call.Answer}
    (reached : .told call answer ∈ course orgId answers [] (plan spec orgId answers))
    (speaks : (Event.told call answer).reason? orgId ≠ none ∨ call.writesConfig = true) :
    (course orgId answers [] (plan spec orgId answers)).findSome? (Event.reason? orgId) =
      (Event.told call answer).reason? orgId := by
  cases settings : answers [] (.federationSettings orgId) with
  | error cause =>
      rw [course_unopened spec settings] at reached ⊢
      rw [List.mem_singleton.mp reached]
      rfl
  | ok found =>
      cases config : answers [.federationSettings orgId]
          (.connectedOrgConfig (FederationSettings.id found) orgId) with
      | error cause =>
          rw [course_unread spec settings config] at reached ⊢
          rcases List.mem_cons.mp reached with first | later
          · cases first
            rcases speaks with told | writes
            · exact absurd rfl told
            · cases writes
          · rw [List.mem_singleton.mp later]
            rfl
      | ok observed =>
          have opening : (Event.told (.federationSettings orgId) (.ok found)).reason? orgId =
              none := rfl
          have link : (Event.told (.connectedOrgConfig (FederationSettings.id found) orgId)
              (.ok observed)).reason? orgId =
              if (ConnectedOrgConfig.identityProviderId observed).isEmpty then
                some .federatedAuthOrgNotConnected else none := rfl
          rw [course_opened spec settings config, List.findSome?_cons, opening,
            List.findSome?_cons, link]
          rcases opened_cases settings config reached with same | same | same | ⟨linked, behind⟩
          · cases same
            rcases speaks with told | writes
            · exact absurd rfl told
            · cases writes
          · cases same
            rw [link] at speaks ⊢
            rcases speaks with told | writes
            · split at told
              · rename_i empty
                simp [empty]
              · exact absurd rfl told
            · cases writes
          · cases same
          · have need : (Event.needed (ConnectedOrgConfig.identityProviderId observed)).reason?
                orgId = none := by
              simp [Event.reason?, Event.fails, linked]
            -- Only inner calls come before the write, and a reason of theirs is the last event.
            obtain ⟨first, desired, inner, same⟩ := linkedPlan_inner spec orgId
              (FederationSettings.id found) observed answers
            rw [same] at behind ⊢
            simp only [linked, Bool.false_eq_true, if_false, List.findSome?_cons, need]
            exact reason_before_write inner behind speaks

end Course

section Reasons

variable {remote : Remote σ} {start : Trace σ} {orgId : String} {earlier : List Call}
  {first second : List Step}

/-- The reason for which a step fails, if it does. -/
def failureReason? : Except PassError α → Option FailureReason
  | .ok _ => none
  | .error failure => some failure.reason

/-- A step concludes a plan when it fails for the reason of the first event that has one. -/
def Concludes (remote : Remote σ) (start : Trace σ) (orgId : String) (step : PassM σ PassError α)
    (earlier : List Call) (plan : List Step) : Prop :=
  failureReason? (step.run (remote.attempted start earlier)).1 =
    (course orgId (remote.attempt start) earlier plan).findSome? (Event.reason? orgId)

/-- A step that performs a plan of inner calls and fails inside concludes the plan. -/
theorem Performs.concludes {step : PassM σ PassError α}
    (performs : Performs remote start orgId step earlier first)
    (inner : ∀ call, .asks call ∈ first → call.isInner = true)
    (inside : step.FailsInside) : Concludes remote start orgId step earlier first := by
  have succeeds := performs.succeeds
  rw [Concludes, findSome_of_inner (inner_of_plan inner), ← passes_eq_all, ← succeeds]
  rcases ran : step.run (remote.attempted start earlier) with ⟨result, later⟩
  cases result with
  | ok value => rfl
  | error failure => exact congrArg some (inside _ failure later ran)

/-- A step that is bound to another one concludes both plans. -/
theorem Concludes.bind {step : PassM σ PassError α} {next : α → PassM σ PassError β}
    (concludes : Concludes remote start orgId step earlier first)
    (performs : Performs remote start orgId step earlier first)
    (continues : ∀ value, (step.run (remote.attempted start earlier)).1 = .ok value →
      Concludes remote start orgId (next value) (earlier ++ first.filterMap Step.call?) second) :
    Concludes remote start orgId (step >>= next) earlier (first ++ second) := by
  have moved := performs.makes
  have succeeds := performs.succeeds
  rw [Concludes] at concludes
  rw [Concludes, Stateful.run_bind, course_append, List.findSome?_append]
  rw [Makes] at moved
  rcases ran : step.run (remote.attempted start earlier) with ⟨result, later⟩
  rw [ran] at moved succeeds concludes
  subst moved
  rw [← concludes]
  cases result with
  | error failure => rfl
  | ok value =>
      have passed : passes orgId (remote.attempt start) earlier first = true := succeeds.symm
      have further := continues value (by rw [ran])
      rw [Concludes] at further
      rw [callsMade_of_passes passed, if_pos passed, ← further]
      rfl

/-- The answer to a write fails the pass exactly for users in conflict. -/
theorem reportConflicts_reason (response : ConnectedOrgConfig) :
    failureReason? (Convergence.reportConflicts response) =
      if response.usersInConflict = [] then none else some .federatedAuthUsersConflict := by
  rw [Convergence.reportConflicts]
  split <;> rfl

/-- A configuration is written or not, and what the write tells concludes its plan. -/
theorem settleConfig_concludes (settingsId : String) (desired : DesiredOrgConfig)
    (observed : ConnectedOrgConfig) :
    Concludes remote start orgId
      (Convergence.settleConfig remote settingsId orgId desired observed) earlier
      (configPlan settingsId orgId desired observed) := by
  rw [Concludes, configPlan]
  by_cases same : differingFields desired observed = []
  · rw [if_pos same, Convergence.settleConfig_run_same remote _ same]
    rfl
  · rw [if_neg same, Convergence.settleConfig_run_written same
      (remote.ask_attempted start earlier _), course]
    cases remote.attempt start earlier (.updateConnectedOrgConfig settingsId orgId desired) with
    | error cause => cases cause <;> rfl
    | ok response =>
        refine (reportConflicts_reason response).trans ?_
        simp only [List.findSome?_cons, Event.reason?, fails, course]
        split <;> rfl

/-- Behind the opening, the settling of a linked organization concludes its plan. -/
theorem linked_concludes (spec : Spec) (settingsId : String) (observed : ConnectedOrgConfig) :
    Concludes remote start orgId
      ((desiredConfig remote orgId observed.identityProviderId spec).failAs
          Convergence.configFailure >>= fun desired =>
        Convergence.settleProvider remote spec settingsId observed.identityProviderId >>= fun _ =>
          Convergence.settleConfig remote settingsId orgId desired observed)
      [.federationSettings orgId, .connectedOrgConfig settingsId orgId]
      (linkedPlan spec orgId settingsId observed (remote.attempt start)) := by
  rw [linkedPlan]
  obtain ⟨performs, found⟩ :=
    desiredConfig_performs remote start orgId
      [.federationSettings orgId, .connectedOrgConfig settingsId orgId] spec
      observed.identityProviderId
  have searches := performs.concludes (lookups_inner _) (.configFailure _)
  refine searches.bind performs fun desired searched => ?_
  rw [found desired searched, lookups_calls]
  have settles := settleProvider_reported remote start orgId
    ([.federationSettings orgId, .connectedOrgConfig settingsId orgId] ++
      spec.projectNames.eraseDups.map .projectByName)
    spec settingsId observed.identityProviderId
  exact (settles.concludes (providerPlan_inner _ _ _ _) (.settleProvider _ _ _ _)).bind settles
    fun _ _ => settleConfig_concludes _ _ _

/-- The steps of a pass conclude its plan. -/
theorem steps_concludes (remote : Remote σ) (start : Trace σ) (spec : Spec) (orgId : String) :
    Concludes remote start orgId (Convergence.steps remote spec orgId) []
      (plan spec orgId (remote.attempt start)) := by
  have opened := remote.ask_attempted start [] (.federationSettings orgId)
  rw [Concludes]
  cases settings : remote.attempt start [] (.federationSettings orgId) with
  | error cause =>
      rw [settings] at opened
      rw [Convergence.steps_run_unopened spec opened, course_unopened spec settings]
      cases cause <;> rfl
  | ok found =>
      rw [settings] at opened
      have read := remote.ask_attempted start [.federationSettings orgId]
        (.connectedOrgConfig (FederationSettings.id found) orgId)
      cases config : remote.attempt start [.federationSettings orgId]
          (.connectedOrgConfig (FederationSettings.id found) orgId) with
      | error cause =>
          rw [config] at read
          rw [Convergence.steps_run_unread spec opened read, course_unread spec settings config]
          cases cause <;> rfl
      | ok observed =>
          rw [config] at read
          rw [course_opened spec settings config]
          cases linked : (ConnectedOrgConfig.identityProviderId observed).isEmpty with
          | true =>
              rw [Convergence.steps_run_unlinked opened read linked]
              simp [Event.reason?, Event.fails, fails, linked, failureReason?, PassError.reason]
          | false =>
              rw [Convergence.steps_run_linked opened read linked]
              have further : Concludes remote start orgId _ _ _ :=
                linked_concludes spec (FederationSettings.id found) observed
              rw [Concludes] at further
              simp only [List.findSome?_cons, Event.reason?, Event.fails, fails, linked,
                Bool.false_eq_true, if_false]
              exact further

/-- The calls that an enabled pass comes to are the ones that it makes, each of which the remote
answers, and behind them the ones that find it cancelled. -/
theorem run_calls (remote : Remote σ) {spec : Spec} (enabled : spec.isEnabled = true)
    (orgId : String) (state : σ) (cancelled : Bool) :
    let start := Trace.start state cancelled
    let answers := remote.attempt start
    let reached := callsMade orgId answers [] (plan spec orgId answers)
    let done := Pass.run remote spec orgId start
    done.2 = remote.attempted start reached ∧
      ∃ refused, reached = done.2.calls ++ refused ∧
        (refused ≠ [] → done.2.cancelled = true) ∧
        ∀ earlier call later, done.2.calls = earlier ++ call :: later →
          answers earlier call = remote.answer state earlier call := by
  intro start answers reached done
  have moved : Makes remote start orgId (Convergence.steps remote spec orgId) []
      (plan spec orgId answers) := steps_makes spec
  rw [Makes, List.nil_append] at moved
  have behind : done.2 = remote.attempted start reached :=
    (Pass.run_enabled_trace remote orgId start enabled).trans moved
  obtain ⟨made, refused, divided, followed, ended, told⟩ := remote.attempted_made start reached
  have calls : done.2.calls = made := by
    rw [behind, followed, Remote.follow_calls]
    rfl
  rw [calls, behind, followed]
  exact ⟨followed.symm ▸ rfl, refused, divided, ended, told⟩

end Reasons

end Protocol

/-- The organization that a call names among its arguments. -/
def Call.orgId? : Call → Option String
  | .federationSettings org | .connectedOrgConfig _ org | .updateConnectedOrgConfig _ org _ =>
      some org
  | .identityProvider _ _ | .updateIdentityProvider _ _ _ | .projectByName _ => none

/-- The calls of a pass name no other organization than its own. -/
theorem Pass.calls_within (remote : Remote σ) (spec : Spec) (orgId : String) (state : σ)
    (cancelled : Bool) :
    ∀ call ∈ (Pass.run remote spec orgId (Trace.start state cancelled)).2.calls,
      ∀ org, call.orgId? = some org → org = orgId := by
  intro call made org named
  cases enabled : spec.isEnabled with
  | false =>
      rw [run_disabled remote orgId _ enabled] at made
      cases made
  | true =>
      obtain ⟨_, refused, reached, _⟩ := Protocol.run_calls remote enabled orgId state cancelled
      have planned := (Protocol.callsMade_planned [] _).subset
        (reached ▸ List.mem_append_left refused made)
      obtain ⟨step, member, same⟩ := List.mem_filterMap.mp planned
      cases step with
      | needs text => cases same
      | asks other =>
          cases same
          rcases Protocol.plan_asks member with rfl | ⟨_, rfl⟩ | inner | ⟨_, _, rfl⟩
          · exact (Option.some.inj named).symm
          · exact (Option.some.inj named).symm
          · cases call <;> cases inner <;> cases named
          · exact (Option.some.inj named).symm

end OrgFederation

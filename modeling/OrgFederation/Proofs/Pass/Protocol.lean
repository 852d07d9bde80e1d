import OrgFederation.Proofs.Pass.Attempts
import OrgFederation.Proofs.Pass.Cancellation
import OrgFederation.Proofs.Pass.Plan
import OrgFederation.Proofs.Pass.Settling

namespace OrgFederation

variable {σ ε δ α β : Type}

namespace Remote

variable (remote : Remote σ)

/-- The remote that answers as another one does, and that nobody cancels. -/
def calmed : Remote σ :=
  remote.uninterrupted fun call state => (.error .cancelled, remote.next call state)

/-- A call in a state has the same result and the same next state, and it does not cancel. -/
theorem calmed_reply (call : Call) (state : σ) :
    remote.calmed.result call state = remote.result call state ∧
      remote.calmed.next call state = remote.next call state ∧
      (remote.calmed.reply call state).1.cancels = false := by
  rw [calmed, result, result, next, next, uninterrupted]
  dsimp only
  rcases replied : remote.reply call state with ⟨reply, later⟩
  cases reply with
  | answered result cancels => exact ⟨rfl, rfl, rfl⟩
  | stalled => simp [Reply.result, Reply.cancels, Remote.next, replied]

/-- The state behind calls is the same when nobody cancels. -/
theorem calmed_follow (calls : List Call) (first second : Trace σ)
    (same : first.state = second.state) :
    (remote.calmed.follow first calls).state = (remote.follow second calls).state := by
  induction calls generalizing first second with
  | nil => exact same
  | cons call rest ih =>
      refine ih _ _ ?_
      rw [after_state, after_state, same]
      exact (remote.calmed_reply call second.state).2.1

/-- Calls behind others are answered alike when nobody cancels. -/
theorem calmed_answer (state : σ) : remote.calmed.answer state = remote.answer state := by
  funext earlier call
  rw [answer, answer, (remote.calmed_reply call _).1, remote.calmed_follow earlier _ _ rfl]

/-- Nobody cancels a run of calls. -/
theorem calmed_active (calls : List Call) (trace : Trace σ)
    (active : trace.cancelled = false) : (remote.calmed.follow trace calls).cancelled = false := by
  induction calls generalizing trace with
  | nil => exact active
  | cons call rest ih =>
      refine ih _ ?_
      rw [after, Trace.called, active, (remote.calmed_reply call trace.state).2.2]
      rfl

end Remote

namespace Protocol

section Runs

variable (remote : Remote σ) (start : Trace σ)

/-- A step comes to the calls of a plan that are reached after earlier ones. -/
def Makes (orgId : String) (step : PassM σ ε α) (earlier : List Call) (plan : List Step) : Prop :=
  (step.run (remote.attempted start earlier)).2 =
    remote.attempted start (earlier ++ callsMade orgId (remote.attempt start) earlier plan)

/-- A step performs a plan when it comes to its calls and succeeds exactly when the plan is
passed. -/
structure Performs (orgId : String) (step : PassM σ ε α) (earlier : List Call)
    (plan : List Step) : Prop where
  makes : Makes remote start orgId step earlier plan
  succeeds : (step.run (remote.attempted start earlier)).1.isOk =
    passes orgId (remote.attempt start) earlier plan

variable {remote : Remote σ} {start : Trace σ} {orgId : String} {earlier : List Call}
  {first second : List Step}

/-- A step performs a plan when its run is the one of the plan. -/
theorem performs_of_run {step : PassM σ ε α} {result : Except ε α} {made : List Call}
    (ran : step.run (remote.attempted start earlier) =
      (result, remote.attempted start (earlier ++ made)))
    (calls : callsMade orgId (remote.attempt start) earlier first = made)
    (passed : passes orgId (remote.attempt start) earlier first = result.isOk) :
    Performs remote start orgId step earlier first := by
  constructor
  · rw [Makes, ran, calls]
  · rw [ran, passed]

/-- A step that is bound to another one makes its own calls, and the calls of the other one when its
plan is passed. -/
theorem Makes.bind {step : PassM σ ε α} {next : α → PassM σ ε β}
    (performs : Performs remote start orgId step earlier first)
    (continues : ∀ value,
      (step.run (remote.attempted start earlier)).1 = .ok value →
      Makes remote start orgId (next value)
        (earlier ++ first.filterMap Step.call?) second) :
    Makes remote start orgId (step >>= next) earlier (first ++ second) := by
  have moved := performs.makes
  have succeeds := performs.succeeds
  rw [Makes, Stateful.run_bind, callsMade_append]
  rw [Makes] at moved
  rcases ran : step.run (remote.attempted start earlier) with ⟨result, later⟩
  rw [ran] at moved succeeds
  subst moved
  cases result with
  | error failure =>
      -- A step that fails has not passed its plan, so no call of the second plan is due.
      have stopped : passes orgId (remote.attempt start) earlier first = false := succeeds.symm
      simp only [stopped, if_false, Bool.false_eq_true, List.append_nil]
  | ok value =>
      have passed : passes orgId (remote.attempt start) earlier first = true := succeeds.symm
      have made := callsMade_of_passes passed
      have further := continues value (by rw [ran])
      rw [Makes] at further
      simp only [passed, if_true, made, ← List.append_assoc]
      exact further

theorem Performs.failAs {step : PassM σ ε α}
    (performs : Performs remote start orgId step earlier first) (failure : Trace σ → ε → δ) :
    Performs remote start orgId (step.failAs failure) earlier first := by
  have moved := performs.makes
  have succeeds := performs.succeeds
  rw [Makes] at moved
  rcases ran : step.run (remote.attempted start earlier) with ⟨result, later⟩
  rw [ran] at moved succeeds
  cases result with
  | ok value =>
      have renamed := PassM.run_failAs_ok ran failure
      exact ⟨(congrArg Prod.snd renamed).trans moved, by rw [renamed]; exact succeeds⟩
  | error cause =>
      have renamed := PassM.run_failAs_error ran failure
      exact ⟨(congrArg Prod.snd renamed).trans moved, by rw [renamed]; exact succeeds⟩

/-- A call that is not a lookup performs its step. -/
theorem ask_performs (call : Call) (other : ∀ name, call ≠ .projectByName name) :
    Performs remote start orgId (remote.ask call) earlier [.asks call] := by
  refine performs_of_run (remote.ask_attempted start earlier call) ?_ ?_
  · simp [callsMade]
  · simp [passes, fails_of_other orgId other]

/-- The configuration is written when it differs. -/
theorem settleConfig_makes (settingsId : String) (desired : DesiredOrgConfig)
    (observed : ConnectedOrgConfig) :
    Makes remote start orgId (Convergence.settleConfig remote settingsId orgId desired observed)
      earlier (configPlan settingsId orgId desired observed) := by
  rw [Makes, configPlan]
  by_cases same : differingFields desired observed = []
  · rw [if_pos same, Convergence.settleConfig_run_same remote _ same]
    simp [callsMade]
  · rw [if_neg same,
      Convergence.settleConfig_run_written same (remote.ask_attempted start earlier _)]
    simp [callsMade]

/-- The provider is read, and it is written when its debug flag is to change. -/
theorem settleProvider_performs (spec : Spec) (settingsId providerId : String)
    {provider : IdentityProviderSettings}
    (told : ∀ read, remote.attempt start earlier (.identityProvider settingsId providerId) =
      .ok read → read = provider) :
    Performs remote start orgId (Convergence.settleProvider remote spec settingsId providerId)
      earlier (providerPlan spec settingsId providerId provider) := by
  have read := remote.ask_attempted start earlier (.identityProvider settingsId providerId)
  have failsRead := fails_of_other orgId
    (by simp : ∀ name, .identityProvider settingsId providerId ≠ Call.projectByName name)
  cases answered : remote.attempt start earlier (.identityProvider settingsId providerId) with
  | error cause =>
      rw [answered] at read
      refine performs_of_run (Convergence.settleProvider_run_unread spec read) ?_ ?_
      · simp [providerPlan, callsMade, answered, failsRead, Except.isOk, Except.toBool]
      · simp [providerPlan, passes, answered, failsRead, Except.isOk, Except.toBool]
  | ok found =>
      obtain rfl := told found answered
      rw [answered] at read
      cases changes : spec.changesProvider found with
      | false =>
          refine performs_of_run (Convergence.settleProvider_run_kept read changes) ?_ ?_
          · simp [providerPlan, changes, callsMade, answered, failsRead, Except.isOk,
              Except.toBool]
          · simp [providerPlan, changes, passes, answered, failsRead, Except.isOk, Except.toBool]
      | true =>
          have written := remote.ask_attempted start
            (earlier ++ [.identityProvider settingsId providerId])
            (.updateIdentityProvider settingsId providerId (spec.settledProvider found))
          rw [List.append_assoc] at written
          have failsWritten := fails_of_other orgId (by simp : ∀ name, .updateIdentityProvider
            settingsId providerId (spec.settledProvider found) ≠ Call.projectByName name)
          refine performs_of_run (Convergence.settleProvider_run_changed read changes written) ?_ ?_
          · simp [providerPlan, changes, callsMade, answered, failsRead, Except.isOk,
              Except.toBool]
          · simp [providerPlan, changes, passes, answered, failsRead, failsWritten, Except.isOk,
              Except.toBool]
            cases remote.attempt start _ _ <;> rfl

/-- The provider that is told is the one to settle. -/
theorem settleProvider_reported (remote : Remote σ) (start : Trace σ) (orgId : String)
    (earlier : List Call) (spec : Spec) (settingsId providerId : String) :
    let provider : IdentityProviderSettings := reported
      (remote.attempt start earlier (.identityProvider settingsId providerId))
    Performs remote start orgId (Convergence.settleProvider remote spec settingsId providerId)
      earlier (providerPlan spec settingsId providerId provider) := by
  refine settleProvider_performs spec settingsId providerId ?_
  intro provider answered
  rw [answered]
  rfl

/-- Lookups are answered one by one, each behind the names before it. -/
theorem looksUp_projectOf (remote : Remote σ) (start : Trace σ) (earlier : List Call)
    {names : List String} (distinct : names.Nodup) :
    remote.LooksUp (projectOf (remote.attempt start) earlier names) names fun seen trace =>
      trace = remote.attempted start (earlier ++ seen.map .projectByName) := by
  rintro seen name rest _ split rfl
  refine ⟨_, ?_, rfl⟩
  rw [remote.ask_attempted, projectOf_of_next distinct split, List.map_append, List.append_assoc]
  rfl

/-- The search for a configuration looks the distinct names up. When it succeeds, the configuration
has the ids that are reported. -/
theorem desiredConfig_performs (remote : Remote σ) (start : Trace σ) (orgId : String)
    (earlier : List Call) (spec : Spec) (providerId : String) :
    let names := spec.projectNames.eraseDups
    let lookup := projectOf (remote.attempt start) earlier names
    let step := (desiredConfig remote orgId providerId spec).failAs Convergence.configFailure
    Performs remote start orgId step earlier (lookups names) ∧
      ∀ desired, (step.run (remote.attempted start earlier)).1 = .ok desired →
        desired = spec.configWith (fun name => (reported (lookup name)).id) orgId providerId := by
  intro names lookup step
  have distinct : names.Nodup := nodup_eraseDups _
  have looksUp := looksUp_projectOf remote start earlier distinct
  obtain ⟨_, ran, rfl⟩ := desiredConfig_run looksUp (by rw [List.map_nil, List.append_nil]) orgId
    providerId
  obtain ⟨made, passed⟩ :=
    lookups_reached orgId (remote.attempt start) earlier distinct [] names rfl
  rw [List.map_nil, List.append_nil] at made passed
  have performs : Performs remote start orgId (desiredConfig remote orgId providerId spec) earlier
      (lookups names) :=
    performs_of_run ran made (by rw [passed, Spec.configBy_isOk])
  refine ⟨performs.failAs _, ?_⟩
  intro desired succeeded
  cases found : spec.configBy (idByLookup orgId lookup) orgId providerId with
  | error failure =>
      rw [PassM.run_failAs_error (ran.trans (congrArg (·, _) found))] at succeeded
      cases succeeded
  | ok config =>
      rw [PassM.run_failAs_ok (ran.trans (congrArg (·, _) found))] at succeeded
      obtain rfl := Except.ok.inj succeeded
      have ids : ∀ name ∈ spec.projectNames,
          idByLookup orgId lookup name = .ok (reported (lookup name)).id := by
        intro name member
        obtain ⟨id, resolved⟩ := Spec.exists_id_of_configBy found name member
        rw [resolved, reported_of_idByLookup resolved]
      exact Except.ok.inj (found.symm.trans (Spec.configBy_eq_ok ids orgId providerId))

/-- A call that is no lookup is followed by what its answer makes of the plan. -/
theorem Makes.bind_ask {call : Call} (other : ∀ name, call ≠ .projectByName name)
    {failure : Trace σ → CallError → ε} {next : call.Answer → PassM σ ε β}
    (continues : ∀ value, remote.attempt start earlier call = .ok value →
      Makes remote start orgId (next value) (earlier ++ [call]) second) :
    Makes remote start orgId ((remote.ask call).failAs failure >>= next) earlier
      (.asks call :: second) := by
  refine Makes.bind ((ask_performs call other).failAs failure) fun value succeeded => ?_
  cases answered : remote.attempt start earlier call with
  | error cause =>
      rw [PassM.run_failAs_error ((remote.ask_attempted start earlier call).trans
        (congrArg (·, _) answered))] at succeeded
      cases succeeded
  | ok found =>
      rw [PassM.run_failAs_ok ((remote.ask_attempted start earlier call).trans
        (congrArg (·, _) answered))] at succeeded
      obtain rfl := Except.ok.inj succeeded
      exact continues found answered

/-- Behind the opening, a linked organization is settled as planned. -/
theorem linked_makes (spec : Spec) (settingsId : String) (observed : ConnectedOrgConfig) :
    Makes remote start orgId
      ((desiredConfig remote orgId observed.identityProviderId spec).failAs
          Convergence.configFailure >>= fun desired =>
        Convergence.settleProvider remote spec settingsId observed.identityProviderId >>= fun _ =>
          Convergence.settleConfig remote settingsId orgId desired observed)
      [.federationSettings orgId, .connectedOrgConfig settingsId orgId]
      (linkedPlan spec orgId settingsId observed (remote.attempt start)) := by
  rw [linkedPlan]
  obtain ⟨performs, found⟩ :=
    desiredConfig_performs remote start orgId _ spec observed.identityProviderId
  refine Makes.bind performs fun desired searched => ?_
  rw [found desired searched, lookups_calls]
  exact Makes.bind (settleProvider_reported remote start orgId _ spec _ _) fun _ _ =>
    settleConfig_makes _ _ _

/-- The steps of a pass make the calls of its plan. -/
theorem steps_makes (spec : Spec) :
    Makes remote start orgId (Convergence.steps remote spec orgId) []
      (plan spec orgId (remote.attempt start)) := by
  rw [plan]
  refine Makes.bind_ask (by simp) fun settings opened => ?_
  rw [opened]
  refine Makes.bind_ask (by simp) fun observed read => ?_
  have reading : remote.attempt start [.federationSettings orgId]
      (.connectedOrgConfig settings.id orgId) = .ok observed := read
  simp only [reported, reading]
  rw [Makes, callsMade]
  cases linked : observed.identityProviderId.isEmpty with
  | true =>
      rw [if_pos rfl, if_pos rfl, List.append_nil]
      rfl
  | false =>
      rw [if_neg (by simp), if_neg (by simp)]
      exact linked_makes spec settings.id observed

end Runs

end Protocol

namespace Pass

/-- A pass that nobody cancels makes the calls of its plan, in order, up to the first step that
fails. A declaration that is not enabled makes none. -/
theorem calls_follow_plan (remote : Remote σ) (spec : Spec) (orgId : String) (state : σ)
    (active : (Pass.run remote spec orgId (Trace.start state false)).2.cancelled = false) :
    let answers := remote.answer state
    let plan := Protocol.plan spec orgId answers
    let made := Protocol.callsMade orgId answers [] plan
    (Pass.run remote spec orgId (Trace.start state false)).2.calls =
        (if spec.isEnabled then made else []) ∧
      made <+: plan.filterMap Protocol.Step.call? := by
  intro answers plan made
  refine ⟨?_, Protocol.callsMade_planned [] plan⟩
  -- A pass that ends active was not cut short, so it is the pass over the calmed remote.
  have alike : (Pass.run remote spec orgId (Trace.start state false)).2.calls =
      (Pass.run remote.calmed spec orgId (Trace.start state false)).2.calls := by
    rcases run_curtailed remote (fun call state => (.error .cancelled, remote.next call state))
        spec orgId (⟨rfl, rfl, rfl⟩ : (Trace.start state false).Alongside _) with
      ⟨_, alongside⟩ | ⟨_, cancelled, _⟩
    · exact alongside.calls
    · rw [active] at cancelled
      contradiction
  rw [alike]
  cases enabled : spec.isEnabled with
  | false =>
      rw [run_disabled _ orgId _ enabled]
      rfl
  | true =>
      have calm (calls : List Call) :
          (remote.calmed.follow (Trace.start state false) calls).cancelled = false :=
        remote.calmed_active calls _ rfl
      have told : remote.calmed.attempt (Trace.start state false) = remote.answer state := by
        funext earlier
        rw [(remote.calmed.attempt_of_calm calm earlier).2, remote.calmed_answer]
        rfl
      have moved : Protocol.Makes remote.calmed (Trace.start state false) orgId
          (Convergence.steps remote.calmed spec orgId) []
          (Protocol.plan spec orgId (remote.calmed.attempt (Trace.start state false))) :=
        Protocol.steps_makes spec
      rw [Protocol.Makes, told] at moved
      rw [run_enabled_trace _ orgId _ enabled, if_pos rfl]
      refine (congrArg Trace.calls moved).trans ?_
      rw [(remote.calmed.attempt_of_calm calm _).1, Remote.follow_calls]
      rfl

/-- The pass that grants a role makes all of its calls. -/
theorem calls_follow_plan_granting :
    let done := Pass.run InMemory.remote grantingSpec "org" (Trace.start unsettledMemory false)
    let answers := InMemory.remote.answer unsettledMemory
    done.2.cancelled = false ∧
      done.2.calls =
        Protocol.callsMade "org" answers [] (Protocol.plan grantingSpec "org" answers) ∧
      done.2.calls.map Call.method = ["federation_settings", "connected_org_config",
        "project_by_name", "identity_provider", "update_identity_provider",
        "update_connected_org_config"] := by
  have active : (Pass.run InMemory.remote grantingSpec "org"
      (Trace.start unsettledMemory false)).2.cancelled = false := by decide
  exact ⟨active, (calls_follow_plan InMemory.remote grantingSpec "org" unsettledMemory active).1,
    by decide⟩

end Pass

end OrgFederation

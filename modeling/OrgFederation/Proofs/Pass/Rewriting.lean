import OrgFederation.Proofs.Pass.Grants

namespace OrgFederation

variable {σ : Type}

namespace Protocol

variable {spec : Spec} {orgId : String} {answers : Answers} {first second : List Step}

/-- The plan up to the identity provider. -/
def openingPlan (spec : Spec) (orgId settingsId providerId : String) : List Step :=
  .asks (.federationSettings orgId) :: .asks (.connectedOrgConfig settingsId orgId) ::
    .needs providerId :: lookups spec.projectNames.eraseDups

/-- The plan behind the read of an identity provider. -/
def updatePlan (spec : Spec) (settingsId providerId : String)
    (provider : IdentityProviderSettings) : List Step :=
  if spec.changesProvider provider then
    [.asks (.updateIdentityProvider settingsId providerId (spec.settledProvider provider))]
  else
    []

/-- The step reads the settings of an identity provider. -/
def Step.ReadsProvider (step : Step) : Prop :=
  ∃ settingsId providerId, step = .asks (.identityProvider settingsId providerId)

/-- A plan reads the provider behind its opening, and updates it with what is reported there. -/
theorem exists_plan (spec : Spec) (orgId : String) (answers : Answers) :
    ∃ settingsId providerId desired observed,
      plan spec orgId answers = openingPlan spec orgId settingsId providerId ++
        (.asks (.identityProvider settingsId providerId) ::
          (updatePlan spec settingsId providerId (reported (answers
            ((openingPlan spec orgId settingsId providerId).filterMap Step.call?)
              (.identityProvider settingsId providerId))) ++
            configPlan settingsId orgId desired observed)) := by
  have calls (settingsId providerId : String) :
      (openingPlan spec orgId settingsId providerId).filterMap Step.call? =
        [.federationSettings orgId, .connectedOrgConfig settingsId orgId] ++
          spec.projectNames.eraseDups.map .projectByName := by
    rw [← lookups_calls]
    rfl
  simp only [calls]
  exact ⟨_, _, _, _, rfl⟩

/-- Before the provider is read, no provider is read. -/
theorem unread_before (spec : Spec) (orgId settingsId providerId : String) {step : Step}
    (reads : step.ReadsProvider) : step ∉ openingPlan spec orgId settingsId providerId := by
  obtain ⟨_, _, rfl⟩ := reads
  intro planned
  simp only [openingPlan, List.mem_cons, Step.asks.injEq, reduceCtorEq, false_or] at planned
  obtain ⟨_, same⟩ := asks_of_lookups planned
  cases same

/-- Behind the read of the provider, none is read again. -/
theorem unread_behind (spec : Spec) (orgId settingsId providerId : String)
    (provider : IdentityProviderSettings) (desired : DesiredOrgConfig)
    (observed : ConnectedOrgConfig) {step : Step} (reads : step.ReadsProvider) :
    step ∉ updatePlan spec settingsId providerId provider ++
      configPlan settingsId orgId desired observed := by
  obtain ⟨_, _, rfl⟩ := reads
  intro planned
  rw [updatePlan, configPlan] at planned
  split at planned <;> split at planned <;> simp at planned

/-- Behind the read of a provider, it is planned to write what is reported, settled, if that is a
change. -/
theorem plan_at_read {settingsId providerId : String}
    (divided : plan spec orgId answers =
      first ++ .asks (.identityProvider settingsId providerId) :: second)
    {provider : IdentityProviderSettings}
    (told : answers (first.filterMap Step.call?) (.identityProvider settingsId providerId) =
      .ok provider)
    (changes : spec.changesProvider provider = true) : ∃ behind, second =
      .asks (.updateIdentityProvider settingsId providerId (spec.settledProvider provider)) ::
        behind := by
  obtain ⟨readFrom, needed, desired, observed, planned⟩ := exists_plan spec orgId answers
  have reads : (Step.asks (.identityProvider settingsId providerId)).ReadsProvider := ⟨_, _, rfl⟩
  rw [planned] at divided
  rcases divided_append divided with ⟨_, before⟩ | ⟨between, front, same⟩
  · exact absurd (by simp [before]) (unread_before spec orgId readFrom needed reads)
  · cases between with
    | nil =>
        obtain ⟨isRead, behind⟩ := List.cons.inj same
        cases isRead
        rw [List.append_nil] at front
        have isReported : (reported (answers (first.filterMap Step.call?)
            (.identityProvider settingsId providerId)) : IdentityProviderSettings) = provider := by
          rw [told]
          rfl
        rw [← front, isReported, updatePlan, if_pos changes] at behind
        exact ⟨_, behind.symm⟩
    | cons _ between =>
        rw [List.cons_append] at same
        obtain ⟨-, behind⟩ := List.cons.inj same
        have again : Step.asks (.identityProvider settingsId providerId) ∈
            between ++ .asks (.identityProvider settingsId providerId) :: second := by simp
        rw [← behind] at again
        exact absurd again (unread_behind spec orgId readFrom needed _ desired observed reads)

/-- The calls that are made behind a read of the provider that is answered begin with its update, if
that is a change. -/
theorem update_of_callsMade {before rest : List Call} {settingsId providerId : String}
    (made : callsMade orgId answers [] (plan spec orgId answers) =
      before ++ .identityProvider settingsId providerId :: rest)
    {provider : IdentityProviderSettings}
    (told : answers before (.identityProvider settingsId providerId) = .ok provider)
    (changes : spec.changesProvider provider = true) : ∃ after, rest =
      .updateIdentityProvider settingsId providerId (spec.settledProvider provider) :: after := by
  obtain ⟨first, second, planned, calls, passed⟩ := callsMade_divided made
  subst calls
  obtain ⟨behind, rfl⟩ := plan_at_read planned told changes
  have succeeds : fails orgId (.identityProvider settingsId providerId)
      (answers (first.filterMap Step.call?) (.identityProvider settingsId providerId)) = false := by
    rw [told]
    rfl
  rw [planned, callsMade_append, passed, if_pos rfl, callsMade_of_passes passed] at made
  have later := List.append_cancel_left made
  rw [List.nil_append, callsMade, succeeds, if_neg (by simp), callsMade] at later
  obtain ⟨-, same⟩ := List.cons.inj later
  exact ⟨_, same.symm⟩

end Protocol

/-- A call that a pass has made leaves it active, unless the run was cancelled meanwhile. -/
theorem Pass.active_behind (remote : Remote σ) (spec : Spec) (orgId : String) (state : σ)
    (cancelled : Bool) {before rest : List Call} {call : Call}
    (made : (Pass.run remote spec orgId (Trace.start state cancelled)).2.calls =
      before ++ call :: rest) {result : Except CallError call.Answer}
    (replied : (remote.reply call (remote.follow (Trace.start state false) before).state).1 =
      .answered result false) :
    (remote.follow (Trace.start state cancelled) (before ++ [call])).cancelled = false := by
  obtain ⟨calls, same, -, uncancelled⟩ :=
    (Pass.run_proceeds remote spec orgId (Trace.start state cancelled)).follows
  have active := uncancelled before call rest (same.symm.trans made)
  have reached : (remote.follow (Trace.start state cancelled) before).state =
      (remote.follow (Trace.start state false) before).state :=
    remote.follow_state (Trace.start state cancelled) (Trace.start state false) rfl before
  rw [Remote.follow_append, Remote.follow_cons, Remote.follow_nil, Remote.after, Trace.called,
    active, reached, replied]
  rfl

/-- A pass that has read provider settings with another debug flag than it wants, and that is not
cancelled meanwhile, goes on to write these settings with the flag that it wants. -/
theorem Pass.update_follows (remote : Remote σ) (spec : Spec) (orgId : String) (state : σ)
    (cancelled : Bool) {before rest : List Call} {settingsId providerId : String}
    (made : (Pass.run remote spec orgId (Trace.start state cancelled)).2.calls =
      before ++ .identityProvider settingsId providerId :: rest)
    {provider : IdentityProviderSettings}
    (told : remote.answer state before (.identityProvider settingsId providerId) = .ok provider)
    (changes : spec.changesProvider provider = true)
    (active : (remote.follow (Trace.start state cancelled)
      (before ++ [.identityProvider settingsId providerId])).cancelled = false) :
    ∃ after, rest =
      .updateIdentityProvider settingsId providerId (spec.settledProvider provider) :: after := by
  cases enabled : spec.isEnabled with
  | false =>
      rw [run_disabled remote orgId _ enabled] at made
      simp [Trace.start] at made
  | true =>
      obtain ⟨followed, refused, reached, ended, answered⟩ :=
        Protocol.run_calls remote enabled orgId state cancelled
      have same := answered before _ rest made
      rw [made, List.append_assoc, List.cons_append] at reached
      obtain ⟨after, update⟩ := Protocol.update_of_callsMade reached (same.trans told) changes
      cases rest with
      | cons call rest =>
          obtain ⟨rfl, -⟩ := List.cons.inj update
          exact ⟨rest, rfl⟩
      | nil =>
          -- The update is refused only to a pass that is cancelled.
          have blocked : (Pass.run remote spec orgId (Trace.start state cancelled)).2.cancelled =
              true := by
            apply ended
            rintro rfl
            cases update
          obtain ⟨calls, same, behind, -⟩ :=
            (Pass.run_proceeds remote spec orgId (Trace.start state cancelled)).follows
          have own : before ++ [.identityProvider settingsId providerId] = calls :=
            made.symm.trans same
          rw [behind, ← own, active] at blocked
          cases blocked

end OrgFederation

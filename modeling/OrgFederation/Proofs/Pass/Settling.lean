import OrgFederation.Proofs.Pass.Storing

namespace OrgFederation

variable {σ : Type}

/-- An organization is settled when its declaration finds every project and asks for nothing else
than what is held. -/
structure Holdings.Settled (held : Holdings) (spec : Spec) (orgId : String)
    (desired : DesiredOrgConfig) : Prop where
  linked : (held.configOf orgId).identityProviderId.isEmpty = false
  found : held.desiredFor spec orgId = .ok desired
  provider : spec.changesProvider (held.providerOf orgId) = false
  config : differingFields desired (held.configOf orgId) = []

/-- A linked organization whose projects are found is settled once its provider and its
configuration are. -/
theorem Holdings.settled_of_stored {held : Holdings} (left : Holdings) {spec : Spec}
    {orgId : String} {desired : DesiredOrgConfig}
    (linked : (held.configOf orgId).identityProviderId.isEmpty = false)
    (found : held.desiredFor spec orgId = .ok desired) (settings : left.settings = held.settings)
    (project : left.project = held.project)
    (provider : left.provider (held.settings orgId).id (held.configOf orgId).identityProviderId =
      spec.settledProvider (held.providerOf orgId))
    (config : differingFields desired (left.orgConfig (held.settings orgId).id orgId) = []) :
    left.Settled spec orgId desired ∧
      left.providerOf orgId = spec.settledProvider (held.providerOf orgId) := by
  have reported : left.configOf orgId = left.orgConfig (held.settings orgId).id orgId := by
    rw [configOf, settings]
  have providerId : (left.configOf orgId).identityProviderId =
      (held.configOf orgId).identityProviderId := by
    rw [reported, identityProviderId_of_differingFields config,
      Spec.identityProviderId_of_configBy found]
  have settled : left.providerOf orgId = spec.settledProvider (held.providerOf orgId) := by
    rw [providerOf, providerId, settings, provider]
  refine ⟨⟨?_, ?_, ?_, ?_⟩, settled⟩
  · rw [providerId]
    exact linked
  · rw [desiredFor, providerId, project]
    exact found
  · rw [settled]
    exact spec.changesProvider_settledProvider _
  · rw [reported]
    exact config

namespace Storage

variable {remote : Remote σ} (storage : Storage remote) {state : σ} {spec : Spec}
  {orgId : String}

/-- A pass that only reads has an outcome and leaves everything as it was. -/
def OnlyReads (state : σ) (spec : Spec) (orgId : String) (outcome : Outcome) : Prop :=
  ∃ calls later, Pass.run remote spec orgId (Trace.start state false) = (outcome, later) ∧
    storage.Stands state (storage.holdings state) calls later ∧
    ∀ call ∈ calls, call.isUpdate = false

/-- A pass that only reads leaves what the remote holds. -/
theorem OnlyReads.ended {outcome : Outcome} (reads : storage.OnlyReads state spec orgId outcome) :
    let done := Pass.run remote spec orgId (Trace.start state false)
    done.1 = outcome ∧ (∀ call ∈ done.2.calls, call.isUpdate = false) ∧
      storage.sound done.2.state ∧ storage.holdings done.2.state = storage.holdings state := by
  obtain ⟨calls, later, ran, stands, quiet⟩ := reads
  dsimp only
  rw [ran]
  exact ⟨rfl, stands.made ▸ quiet, stands.sound, stands.holds⟩

/-- A declaration that is not enabled does not even read. -/
theorem reads_of_disabled (sound : storage.sound state) (disabled : spec.isEnabled = false) :
    storage.OnlyReads state spec orgId (.settled (some Convergence.notEnabled)) :=
  ⟨[], _, Pass.run_disabled remote orgId _ disabled, .start sound, by simp⟩

/-- An organization that is not linked is only read. -/
theorem reads_of_unlinked (sound : storage.sound state) (enabled : spec.isEnabled = true)
    (unlinked : ((storage.holdings state).configOf orgId).identityProviderId.isEmpty = true) :
    storage.OnlyReads state spec orgId (PassError.noIdentityProvider orgId).outcome := by
  obtain ⟨middle, later, settings, config, stands⟩ := (Stands.start sound).opened orgId
  refine ⟨_, later, ?_, stands, by simp [Call.isUpdate]⟩
  rw [Pass.run_enabled remote orgId _ enabled,
    Convergence.steps_run_unlinked settings config unlinked]

/-- A linked organization is only read when a project of its declaration is not found. -/
theorem reads_of_unresolved (sound : storage.sound state) (enabled : spec.isEnabled = true)
    (linked : ((storage.holdings state).configOf orgId).identityProviderId.isEmpty = false)
    {failure : MappingError}
    (missing : (storage.holdings state).desiredFor spec orgId = .error failure) :
    storage.OnlyReads state spec orgId (PassError.mapping failure).outcome := by
  obtain ⟨middle, opened, settings, config, opening⟩ := (Stands.start sound).opened orgId
  obtain ⟨names, later, searched, stands⟩ := opening.searched spec orgId
    ((storage.holdings state).configOf orgId).identityProviderId
  have failed := PassM.run_failAs_error (searched.trans (congrArg (·, later) missing))
    Convergence.configFailure
  have cause : Convergence.configFailure later failure = .mapping failure := by
    simp [Convergence.configFailure, stands.active]
  refine ⟨_, later, ?_, stands, by simp [Call.isUpdate]⟩
  rw [Pass.run_enabled remote orgId _ enabled,
    Convergence.steps_run_linked settings config linked, Stateful.run_bind_error failed, cause]

/-- A pass that finds its projects reads until it settles the provider and the configuration. -/
theorem reads_until_found (sound : storage.sound state)
    (linked : ((storage.holdings state).configOf orgId).identityProviderId.isEmpty = false)
    {desired : DesiredOrgConfig}
    (found : (storage.holdings state).desiredFor spec orgId = .ok desired) :
    let held := storage.holdings state
    ∃ calls trace, storage.Stands state held calls trace ∧
      (∀ call ∈ calls, call.isUpdate = false) ∧
      (Convergence.steps remote spec orgId).run (Trace.start state false) =
        (Convergence.settleProvider remote spec (held.settings orgId).id
            (held.configOf orgId).identityProviderId >>= fun _ =>
          Convergence.settleConfig remote (held.settings orgId).id orgId desired
            (held.configOf orgId)).run trace := by
  intro held
  obtain ⟨middle, opened, settings, config, opening⟩ := (Stands.start sound).opened orgId
  obtain ⟨names, later, searched, stands⟩ := opening.searched spec orgId
    (held.configOf orgId).identityProviderId
  have resolved := PassM.run_failAs_ok (searched.trans (congrArg (·, later) found))
    Convergence.configFailure
  refine ⟨_, later, stands, by simp [Call.isUpdate], ?_⟩
  rw [Convergence.steps_run_linked settings config linked, Stateful.run_bind_ok resolved]

/-- A settled organization is only read. -/
theorem reads_of_settled (sound : storage.sound state) (enabled : spec.isEnabled = true)
    {desired : DesiredOrgConfig}
    (settled : (storage.holdings state).Settled spec orgId desired) :
    storage.OnlyReads state spec orgId (.settled none) := by
  obtain ⟨calls, searching, looked, quiet, steps⟩ :=
    storage.reads_until_found sound settled.linked settled.found
  obtain ⟨later, kept, stands⟩ := settleProvider_kept looked settled.provider
  refine ⟨_, later, ?_, stands, ?_⟩
  · rw [Pass.run_enabled remote orgId _ enabled, steps, Stateful.run_bind_ok kept,
      Convergence.settleConfig_run_same remote later settled.config]
  · intro call member
    rcases List.mem_append.mp member with earlier | last
    · exact quiet call earlier
    · rw [List.mem_singleton.mp last]
      rfl

/-- A pass over a linked organization whose projects are all found settles it. It fails only when
it writes the configuration and the answer has users in conflict. -/
theorem settles (sound : storage.sound state) (enabled : spec.isEnabled = true)
    (linked : ((storage.holdings state).configOf orgId).identityProviderId.isEmpty = false)
    {desired : DesiredOrgConfig}
    (found : (storage.holdings state).desiredFor spec orgId = .ok desired) :
    let held := storage.holdings state
    let update := Call.updateConnectedOrgConfig (held.settings orgId).id orgId desired
    ∃ outcome calls later left,
      Pass.run remote spec orgId (Trace.start state false) = (outcome, later) ∧
      storage.Stands state left calls later ∧
      left.settings = held.settings ∧
      left.Settled spec orgId desired ∧
      left.providerOf orgId = spec.settledProvider (held.providerOf orgId) ∧
      (differingFields desired (held.configOf orgId) = [] → outcome = .settled none) ∧
      (differingFields desired (held.configOf orgId) ≠ [] →
        ∃ (earlier : List Call) (response : ConnectedOrgConfig), calls = earlier ++ [update] ∧
          remote.answer state earlier update = .ok response ∧
          outcome = if response.usersInConflict = [] then .settled none
            else (PassError.usersConflict response.usersInConflict).outcome) := by
  intro held update
  obtain ⟨calls, searching, looked, _, steps⟩ := storage.reads_until_found sound linked found
  obtain ⟨provider, made, settling, settled, debugged, flag⟩ := settleProvider_settles looked spec
    (held.settings orgId).id (held.configOf orgId).identityProviderId
  rw [Stateful.run_bind_ok settled] at steps
  -- The configuration is compared with the one read at first, which the provider did not change.
  by_cases same : differingFields desired (held.configOf orgId) = []
  · have left := Holdings.settled_of_stored { held with provider } linked found rfl rfl flag
      same
    refine ⟨.settled none, _, settling, _, ?_, debugged, rfl, left.1, left.2, fun _ => rfl,
      (absurd same ·)⟩
    rw [Pass.run_enabled remote orgId _ enabled, steps,
      Convergence.settleConfig_run_same remote settling same]
  · obtain ⟨response, orgConfig, conflicts, later, ran, stands, stored, answered⟩ :=
      settleConfig_stores debugged (held.settings orgId).id orgId same
    have alike : differingFields desired (orgConfig (held.settings orgId).id orgId) = [] := by
      rw [stored, differingFields_stored]
    have left := Holdings.settled_of_stored { held with provider, orgConfig } linked found rfl rfl
      flag alike
    have ended : Pass.run remote spec orgId (Trace.start state false) =
        (if response.usersInConflict = [] then .settled none
          else (PassError.usersConflict response.usersInConflict).outcome, later) := by
      rw [Pass.run_enabled remote orgId _ enabled, steps, ran, Convergence.reportConflicts]
      by_cases clear : response.usersInConflict = []
      · rw [if_pos clear, if_pos clear]
      · rw [if_neg clear, if_neg clear]
    exact ⟨_, _, later, _, ended, stands, rfl, left.1, left.2, (absurd · same),
      fun _ => ⟨_, response, rfl, answered, rfl⟩⟩

/-- Passes over a remote that holds just this only read, and they all end alike. -/
def AtRest (held : Holdings) (spec : Spec) (orgId : String) (outcome : Outcome) : Prop :=
  ∀ state, storage.sound state → storage.holdings state = held →
    storage.OnlyReads state spec orgId outcome

/-- Whatever a pass comes to, what it leaves is at rest. -/
theorem rests (sound : storage.sound state) (spec : Spec) (orgId : String) :
    let left := (Pass.run remote spec orgId (Trace.start state false)).2
    left.cancelled = false ∧ storage.sound left.state ∧
      ∃ outcome, storage.AtRest (storage.holdings left.state) spec orgId outcome := by
  intro left
  -- A pass that only reads comes to the same once more.
  have read {outcome : Outcome}
      (rest : storage.AtRest (storage.holdings state) spec orgId outcome) :
      left.cancelled = false ∧ storage.sound left.state ∧
        ∃ outcome, storage.AtRest (storage.holdings left.state) spec orgId outcome := by
    obtain ⟨calls, later, ran, stands, _⟩ := rest state sound rfl
    have ended : left = later := congrArg Prod.snd ran
    rw [ended, stands.holds]
    exact ⟨stands.active, stands.sound, outcome, rest⟩
  cases enabled : spec.isEnabled with
  | false => exact read fun _ found _ => storage.reads_of_disabled found enabled
  | true =>
      cases linked : ((storage.holdings state).configOf orgId).identityProviderId.isEmpty with
      | true =>
          exact read fun _ found same => storage.reads_of_unlinked found enabled (same ▸ linked)
      | false =>
          cases searched : (storage.holdings state).desiredFor spec orgId with
          | error failure =>
              exact read fun _ found same =>
                storage.reads_of_unresolved found enabled (same ▸ linked) (same ▸ searched)
          | ok desired =>
              obtain ⟨_, _, later, now, ran, stands, _, settled, _⟩ :=
                storage.settles sound enabled linked searched
              have ended : left = later := congrArg Prod.snd ran
              rw [ended, stands.holds]
              exact ⟨stands.active, stands.sound, .settled none,
                fun _ found same => storage.reads_of_settled found enabled (same ▸ settled)⟩

end Storage

namespace Pass

/-- One pass brings a linked organization, whose projects are all found, in line with its
declaration: the configuration that the declaration stands for is stored, and the provider has its
debug flag. The pass fails exactly when it writes the configuration and the answer tells of users in
conflict. -/
theorem one_pass_converges {remote : Remote σ} (storage : Storage remote) {state : σ}
    (sound : storage.sound state) {spec : Spec} (enabled : spec.isEnabled = true) {orgId : String}
    (linked : ((storage.holdings state).configOf orgId).identityProviderId ≠ "")
    (projects : String → Project)
    (known : ∀ name ∈ spec.projectNames, name ≠ "" ∧
      (storage.holdings state).project name = .ok (projects name) ∧
      (projects name).orgId = orgId) :
    let held := storage.holdings state
    let settingsId := (held.settings orgId).id
    let observed := held.orgConfig settingsId orgId
    let providerId := observed.identityProviderId
    let desired := spec.configWith (fun name => (projects name).id) orgId providerId
    let update := Call.updateConnectedOrgConfig settingsId orgId desired
    let done := Pass.run remote spec orgId (Trace.start state false)
    let left := storage.holdings done.2.state
    ((desiredConfig remote orgId providerId spec).run (Trace.start state false)).1 = .ok desired ∧
    differingFields desired (left.orgConfig settingsId orgId) = [] ∧
    left.provider settingsId providerId =
      { held.provider settingsId providerId with
        ssoDebugEnabled :=
          spec.ssoDebugEnabled.or (held.provider settingsId providerId).ssoDebugEnabled } ∧
    (differingFields desired observed = [] → done.1 = .settled none) ∧
    (differingFields desired observed ≠ [] →
      ∃ (earlier : List Call) (response : ConnectedOrgConfig),
        done.2.calls = earlier ++ [update] ∧ remote.answer state earlier update = .ok response ∧
        done.1 =
          if response.userConflicts.getD [] = [] then
            .settled none
          else
            .failed .federatedAuthUsersConflict ("the following users are in conflict: " ++
              ", ".intercalate
                ((response.userConflicts.getD []).map UserConflict.emailAddress))) := by
  intro held settingsId observed providerId desired update done left
  have nonempty : (held.configOf orgId).identityProviderId.isEmpty = false := by
    simpa using linked
  have resolved : ∀ name ∈ spec.projectNames,
      idByLookup orgId held.project name = .ok (projects name).id := by
    intro name member
    obtain ⟨named, found, owned⟩ := known name member
    exact idByLookup_eq_ok named found owned
  have found : held.desiredFor spec orgId = .ok desired :=
    Spec.configBy_eq_ok resolved orgId providerId
  obtain ⟨names, searching, searched, _⟩ :=
    (Storage.Stands.start sound).searched spec orgId providerId
  obtain ⟨outcome, calls, later, now, ran, stands, settings, settled, debugged, kept, written⟩ :=
    storage.settles sound enabled nonempty found
  have ended : done = (outcome, later) := ran
  have holds : left = now := by
    rw [show left = storage.holdings done.2.state from rfl, ended]
    exact stands.holds
  have reported : left.configOf orgId = left.orgConfig settingsId orgId := by
    rw [Holdings.configOf, holds, settings]
  have provider : left.providerOf orgId = left.provider settingsId providerId := by
    rw [Holdings.providerOf, identityProviderId_of_differingFields (holds ▸ settled.config), holds,
      settings]
    rfl
  refine ⟨?_, ?_, ?_, ?_, ?_⟩
  · rw [searched]
    exact found
  · rw [← reported, holds]
    exact settled.config
  · rw [← provider, holds, debugged]
    rfl
  · intro same
    rw [ended]
    exact kept same
  · intro differs
    obtain ⟨earlier, response, made, answered, reported⟩ := written differs
    simp only [ConnectedOrgConfig.usersInConflict, List.map_eq_nil_iff] at reported
    rw [ended]
    exact ⟨earlier, response, stands.made.trans made, answered, reported⟩

/-- This declaration gives a group a role in one project. -/
def grantingSpec : Spec :=
  ⟨some true, ⟨"secret", none⟩, ["example.com"], none, some true, [],
    [⟨"engineers", [⟨"payments", "GROUP_OWNER"⟩]⟩]⟩

/-- A memory of a linked organization that knows the project and reports a user in conflict. -/
def unsettledMemory : InMemory :=
  { InMemory.blank with
    orgConfig := ⟨"org", "provider", [], none, [], [], none⟩
    projects := [("payments", ⟨"id", "payments", "org"⟩)]
    conflictsOnWrite := some [⟨"ada@example.com", none, none, none, none⟩] }

/-- One pass grants the role, and it reports the user in conflict. -/
theorem one_pass_converges_granting :
    let desired := grantingSpec.configWith (fun _ => "id") "org" "provider"
    let done := Pass.run InMemory.remote grantingSpec "org" (Trace.start unsettledMemory false)
    differingFields desired unsettledMemory.orgConfig ≠ [] ∧
      differingFields desired done.2.state.orgConfig = [] ∧
      done.1 = .failed .federatedAuthUsersConflict
        "the following users are in conflict: ada@example.com" := by
  have known : ∀ name ∈ grantingSpec.projectNames, name ≠ "" ∧
      unsettledMemory.holdings.project name = .ok ⟨"id", "payments", "org"⟩ ∧ "org" = "org" := by
    simp [Spec.projectNames, RoleMapping.projectNames, grantingSpec, InMemory.holdings,
      unsettledMemory]
  have converged := one_pass_converges InMemory.storage (⟨rfl, rfl⟩ : unsettledMemory.Faultless)
    (rfl : grantingSpec.isEnabled = true) (by decide) (fun _ => ⟨"id", "payments", "org"⟩) known
  exact ⟨by decide, converged.2.1, by decide⟩

/-- The pass after another one makes no update. It ends as the first one did, unless that one left
users in conflict: then it has nothing to report. -/
theorem second_pass_only_reads {remote : Remote σ} (storage : Storage remote) {state : σ}
    (sound : storage.sound state) (spec : Spec) (orgId : String) :
    let first := Pass.run remote spec orgId (Trace.start state false)
    let second := Pass.run remote spec orgId (Trace.start first.2.state false)
    (∀ call ∈ second.2.calls, call.isUpdate = false) ∧
      second.1 =
        if first.1.reason? = some .federatedAuthUsersConflict then .settled none else first.1 := by
  intro first second
  cases enabled : spec.isEnabled with
  | false =>
      obtain ⟨ended, _, later, _⟩ := (storage.reads_of_disabled sound enabled).ended
      obtain ⟨again, quiet, _⟩ := (storage.reads_of_disabled later enabled).ended
      refine ⟨quiet, again.trans ?_⟩
      rw [ended]
      rfl
  | true =>
      cases linked : ((storage.holdings state).configOf orgId).identityProviderId.isEmpty with
      | true =>
          obtain ⟨ended, _, later, same⟩ := (storage.reads_of_unlinked sound enabled linked).ended
          obtain ⟨again, quiet, _⟩ :=
            (storage.reads_of_unlinked later enabled (same ▸ linked)).ended
          refine ⟨quiet, again.trans ?_⟩
          rw [ended]
          rfl
      | false =>
          cases found : (storage.holdings state).desiredFor spec orgId with
          | error failure =>
              obtain ⟨ended, _, later, same⟩ :=
                (storage.reads_of_unresolved sound enabled linked found).ended
              obtain ⟨again, quiet, _⟩ := (storage.reads_of_unresolved later enabled
                (same ▸ linked) (same ▸ found)).ended
              refine ⟨quiet, again.trans ?_⟩
              rw [ended]
              rfl
          | ok desired =>
              obtain ⟨outcome, calls, later, left, ran, stands, _, settled, _, kept, written⟩ :=
                storage.settles sound enabled linked found
              have ended : first = (outcome, later) := ran
              have soundLater : storage.sound first.2.state := ended ▸ stands.sound
              have settledLater : (storage.holdings first.2.state).Settled spec orgId desired := by
                rw [ended, stands.holds]
                exact settled
              obtain ⟨again, quiet, _⟩ :=
                (storage.reads_of_settled soundLater enabled settledLater).ended
              refine ⟨quiet, again.trans ?_⟩
              rw [ended]
              by_cases same :
                  differingFields desired ((storage.holdings state).configOf orgId) = []
              · rw [kept same]
                rfl
              · obtain ⟨earlier, response, _, _, told⟩ := written same
                rw [told]
                split <;> rfl

/-- The pass after the one that reported a user in conflict has nothing to report. -/
theorem second_pass_only_reads_granting :
    let first := Pass.run InMemory.remote grantingSpec "org" (Trace.start unsettledMemory false)
    let second := Pass.run InMemory.remote grantingSpec "org" (Trace.start first.2.state false)
    first.1.reason? = some .federatedAuthUsersConflict ∧
      (∀ call ∈ second.2.calls, call.isUpdate = false) ∧ second.1 = .settled none := by
  have conflict : (Pass.run InMemory.remote grantingSpec "org"
      (Trace.start unsettledMemory false)).1.reason? = some .federatedAuthUsersConflict := by decide
  have again := second_pass_only_reads InMemory.storage
    (⟨rfl, rfl⟩ : unsettledMemory.Faultless) grantingSpec "org"
  exact ⟨conflict, again.1, again.2.trans (if_pos conflict)⟩

end Pass

end OrgFederation

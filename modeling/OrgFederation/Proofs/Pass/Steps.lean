import OrgFederation.Proofs.Pass.Calls

namespace OrgFederation

variable {σ : Type}

namespace Spec

/-- The declaration asks for another debug flag than the provider has. -/
def changesProvider (spec : Spec) (provider : IdentityProviderSettings) : Bool :=
  spec.ssoDebugEnabled.any fun flag => provider.ssoDebugEnabled != some flag

/-- The provider settings with the debug flag of the declaration, if it has one. -/
def settledProvider (spec : Spec) (provider : IdentityProviderSettings) :
    IdentityProviderSettings :=
  { provider with ssoDebugEnabled := spec.ssoDebugEnabled.or provider.ssoDebugEnabled }

/-- Settled provider settings are not changed again. -/
@[simp] theorem changesProvider_settledProvider (spec : Spec)
    (provider : IdentityProviderSettings) :
    spec.changesProvider (spec.settledProvider provider) = false := by
  cases flag : spec.ssoDebugEnabled <;> simp [changesProvider, settledProvider, flag]

/-- Provider settings that need no change are settled. -/
theorem settledProvider_of_kept {spec : Spec} {provider : IdentityProviderSettings}
    (kept : spec.changesProvider provider = false) : spec.settledProvider provider = provider := by
  cases flag : spec.ssoDebugEnabled with
  | none => simp [settledProvider, flag]
  | some debug =>
      have same : provider.ssoDebugEnabled = some debug := by
        simpa [changesProvider, flag] using kept
      simp [settledProvider, flag, ← same]

end Spec

namespace Convergence

variable {remote : Remote σ} {spec : Spec} {orgId settingsId providerId : String}
  {trace middle later : Trace σ}

/-- A provider that can not be read stops the pass. -/
theorem settleProvider_run_unread (spec : Spec) {cause : CallError}
    (read : (remote.ask (.identityProvider settingsId providerId)).run trace =
      (.error cause, later)) :
    (settleProvider remote spec settingsId providerId).run trace =
      (.error (.ofApi .identityProvider cause), later) :=
  Stateful.run_bind_error (PassM.run_failAs_error read _) _

/-- A provider with the right flag is left alone. -/
theorem settleProvider_run_kept {provider : IdentityProviderSettings}
    (read : (remote.ask (.identityProvider settingsId providerId)).run trace =
      (.ok provider, later))
    (kept : spec.changesProvider provider = false) :
    (settleProvider remote spec settingsId providerId).run trace = (.ok (), later) := by
  refine (Stateful.run_bind_ok (PassM.run_failAs_ok read _) _).trans ?_
  cases flag : spec.ssoDebugEnabled with
  | none => rfl
  | some debug =>
      have same : provider.ssoDebugEnabled = some debug := by
        simpa [Spec.changesProvider, flag] using kept
      dsimp only
      rw [if_pos same]
      rfl

/-- Any other provider is written with the flag of the declaration. -/
theorem settleProvider_run_changed {provider : IdentityProviderSettings}
    {answer : Except CallError IdentityProviderSettings}
    (read : (remote.ask (.identityProvider settingsId providerId)).run trace =
      (.ok provider, middle))
    (changes : spec.changesProvider provider = true)
    (written : (remote.ask (.updateIdentityProvider settingsId providerId
      (spec.settledProvider provider))).run middle = (answer, later)) :
    (settleProvider remote spec settingsId providerId).run trace =
      ((answer.mapError (.ofApi .identityProvider)).map fun _ => (), later) := by
  refine (Stateful.run_bind_ok (PassM.run_failAs_ok read _) _).trans ?_
  cases flag : spec.ssoDebugEnabled with
  | none => simp [Spec.changesProvider, flag] at changes
  | some debug =>
      have different : provider.ssoDebugEnabled ≠ some debug := by
        simpa [Spec.changesProvider, flag] using changes
      have settled : spec.settledProvider provider =
          { provider with ssoDebugEnabled := some debug } := by
        simp [Spec.settledProvider, flag]
      rw [settled] at written
      dsimp only
      rw [if_neg different]
      cases answer with
      | ok _ => exact Stateful.run_bind_ok (PassM.run_failAs_ok written _) _
      | error cause => exact Stateful.run_bind_error (PassM.run_failAs_error written _) _

variable {desired : DesiredOrgConfig} {observed : ConnectedOrgConfig}

/-- A configuration that does not differ is left alone. -/
theorem settleConfig_run_same (remote : Remote σ) (trace : Trace σ)
    (same : differingFields desired observed = []) :
    (settleConfig remote settingsId orgId desired observed).run trace = (.ok (), trace) := by
  rw [settleConfig, if_pos (by simp [same])]
  rfl

/-- The answer to a write fails the pass when users are in conflict. -/
def reportConflicts (response : ConnectedOrgConfig) : Except PassError Unit :=
  if response.usersInConflict = [] then
    .ok ()
  else
    .error (.usersConflict response.usersInConflict)

/-- Any other configuration is written, and the pass fails when the write or its answer does. -/
theorem settleConfig_run_written {answer : Except CallError ConnectedOrgConfig}
    (differs : differingFields desired observed ≠ [])
    (written : (remote.ask (.updateConnectedOrgConfig settingsId orgId desired)).run trace =
      (answer, later)) :
    (settleConfig remote settingsId orgId desired observed).run trace =
      (answer.mapError (.ofApi .update) >>= reportConflicts, later) := by
  rw [settleConfig, if_neg (by simp [differs])]
  cases answer with
  | error cause => exact Stateful.run_bind_error (PassM.run_failAs_error written _) _
  | ok response =>
      refine (Stateful.run_bind_ok (PassM.run_failAs_ok written _) _).trans ?_
      change _ = (reportConflicts response, later)
      rw [reportConflicts]
      cases response.usersInConflict <;> rfl

/-- Federation settings that can not be read stop the pass. -/
theorem steps_run_unopened (spec : Spec) {cause : CallError}
    (opened : (remote.ask (.federationSettings orgId)).run trace = (.error cause, later)) :
    (steps remote spec orgId).run trace = (.error (.ofApi .notAvailable cause), later) :=
  Stateful.run_bind_error (PassM.run_failAs_error opened _) _

/-- A configuration that can not be read stops the pass. -/
theorem steps_run_unread (spec : Spec) {settings : FederationSettings} {cause : CallError}
    (opened : (remote.ask (.federationSettings orgId)).run trace = (.ok settings, middle))
    (read : (remote.ask (.connectedOrgConfig settings.id orgId)).run middle =
      (.error cause, later)) :
    (steps remote spec orgId).run trace = (.error (.ofApi .orgNotConnected cause), later) := by
  refine (Stateful.run_bind_ok (PassM.run_failAs_ok opened _) _).trans ?_
  exact Stateful.run_bind_error (PassM.run_failAs_error read _) _

/-- An organization without an identity provider stops the pass. -/
theorem steps_run_unlinked {settings : FederationSettings}
    (opened : (remote.ask (.federationSettings orgId)).run trace = (.ok settings, middle))
    (read : (remote.ask (.connectedOrgConfig settings.id orgId)).run middle =
      (.ok observed, later))
    (unlinked : observed.identityProviderId.isEmpty = true) :
    (steps remote spec orgId).run trace = (.error (.noIdentityProvider orgId), later) := by
  refine (Stateful.run_bind_ok (PassM.run_failAs_ok opened _) _).trans ?_
  refine (Stateful.run_bind_ok (PassM.run_failAs_ok read _) _).trans ?_
  dsimp only
  rw [if_pos unlinked]
  rfl

/-- A linked organization goes on with the search for its configuration. -/
theorem steps_run_linked {settings : FederationSettings}
    (opened : (remote.ask (.federationSettings orgId)).run trace = (.ok settings, middle))
    (read : (remote.ask (.connectedOrgConfig settings.id orgId)).run middle =
      (.ok observed, later))
    (linked : observed.identityProviderId.isEmpty = false) :
    (steps remote spec orgId).run trace =
      ((desiredConfig remote orgId observed.identityProviderId spec).failAs configFailure >>=
        fun desired =>
          settleProvider remote spec settings.id observed.identityProviderId >>= fun _ =>
            settleConfig remote settings.id orgId desired observed).run later := by
  refine (Stateful.run_bind_ok (PassM.run_failAs_ok opened _) _).trans ?_
  refine (Stateful.run_bind_ok (PassM.run_failAs_ok read _) _).trans ?_
  dsimp only
  rw [if_neg (by simp [linked])]

end Convergence

end OrgFederation

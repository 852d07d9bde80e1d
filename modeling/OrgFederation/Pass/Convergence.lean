import OrgFederation.Pass.Differences
import OrgFederation.Pass.DesiredConfig

namespace OrgFederation

namespace Convergence

/-- The message of a pass that has nothing to do. -/
def notEnabled : String := "federated authentication is not enabled"

/-- Of the identity provider only the debug flag is managed, and it is written only when the
declaration sets it to something else than it is. -/
def settleProvider {σ : Type} (remote : Remote σ) (spec : Spec)
    (settingsId providerId : String) : PassM σ PassError Unit := do
  let provider : IdentityProviderSettings ←
    (remote.ask (.identityProvider settingsId providerId)).failAs fun _ =>
      PassError.ofApi .identityProvider
  match spec.ssoDebugEnabled with
  | none => return ()
  | some flag =>
      if provider.ssoDebugEnabled = some flag then
        return ()
      else
        let changed := { provider with ssoDebugEnabled := some flag }
        let _ ← (remote.ask (.updateIdentityProvider settingsId providerId changed)).failAs
          fun _ => PassError.ofApi .identityProvider
        return ()

/-- The configuration is written when it differs from the one read in this pass; the answer tells
the users that are in conflict. -/
def settleConfig {σ : Type} (remote : Remote σ) (settingsId orgId : String)
    (desired : DesiredOrgConfig) (observed : ConnectedOrgConfig) :
    PassM σ PassError Unit := do
  if (differingFields desired observed).isEmpty then
    return ()
  else
    let updated : ConnectedOrgConfig ←
      (remote.ask (.updateConnectedOrgConfig settingsId orgId desired)).failAs fun _ =>
        PassError.ofApi .update
    match updated.usersInConflict with
    | [] => return ()
    | addresses => throw (.usersConflict addresses)

/-- Once its run is cancelled, the search for a configuration is cut short, whatever its failure. -/
def configFailure {σ : Type} (trace : Trace σ) (cause : MappingError) : PassError :=
  if trace.cancelled then .cancelled else .mapping cause

/-- The steps of a pass for an enabled declaration. -/
def steps {σ : Type} (remote : Remote σ) (spec : Spec) (orgId : String) :
    PassM σ PassError Unit := do
  let settings : FederationSettings ←
    (remote.ask (.federationSettings orgId)).failAs fun _ => PassError.ofApi .notAvailable
  let observed : ConnectedOrgConfig ←
    (remote.ask (.connectedOrgConfig settings.id orgId)).failAs fun _ =>
      PassError.ofApi .orgNotConnected
  if observed.identityProviderId.isEmpty then
    throw (.noIdentityProvider orgId)
  let desired ←
    (desiredConfig remote orgId observed.identityProviderId spec).failAs configFailure
  settleProvider remote spec settings.id observed.identityProviderId
  settleConfig remote settings.id orgId desired observed

end Convergence

/-- A pass ends in an outcome. A declaration that is not enabled is left alone. -/
def Pass.run {σ : Type} (remote : Remote σ) (spec : Spec) (orgId : String)
    (trace : Trace σ) : Outcome × Trace σ :=
  if spec.isEnabled then
    match (Convergence.steps remote spec orgId).run trace with
    | (.ok (), trace) => (.settled none, trace)
    | (.error failure, trace) => (failure.outcome, trace)
  else
    (.settled (some Convergence.notEnabled), trace)

end OrgFederation

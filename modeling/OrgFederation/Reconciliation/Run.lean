import OrgFederation.Pass.Convergence
import OrgFederation.Reconciliation.Basic

namespace OrgFederation

/-- A connection to an organization. -/
structure Connection (σ : Type) where
  orgId : String
  remote : Remote σ

/-- Connecting ends with a connection or an error, and meanwhile the reconciliation may have been
cancelled. -/
structure Connecting (σ : Type) where
  result : Except OperatorError (Connection σ)
  cancels : Bool

/-- What surrounds reconciliations: the way to an organization and the way to a status, with a state
behind both. -/
structure Surroundings (σ : Type) where
  connect : FederatedAuth → σ → Connecting σ × σ
  patchStatus : StatusPatch → σ → Except OperatorError Unit × σ

/-- What a reconciliation has done; `resource` is the resource as the cluster then holds it. -/
structure Reconciliation (σ : Type) where
  result : Except OperatorError Action
  patch : Option StatusPatch
  resource : FederatedAuth
  calls : List Call
  cancelled : Bool
  state : σ

namespace Reconciliation

/-- The action that follows, also after an error. -/
def action {σ : Type} (done : Reconciliation σ) (intervals : Intervals) : Action :=
  match done.result with
  | .ok action => action
  | .error error => intervals.actionAfter error

/-- A resource is reconciled within its namespace. -/
def namespaceMissing (resource : FederatedAuth) : OperatorError :=
  .validation resource.metadata.anyName "FederatedAuth must be namespaced"

/-- An organization that cannot be reached for the sake of its secret is an outcome. -/
def secretInvalid (resource message : String) : Outcome :=
  .failed .connectionSecretInvalid ("connection secret " ++ resource ++ ": " ++ message)

/-- The pass of a reconciliation. A declaration that is not enabled needs no connection. -/
def pass {σ : Type} (surroundings : Surroundings σ) (resource : FederatedAuth)
    (trace : Trace σ) : Except OperatorError Outcome × Trace σ :=
  if resource.spec.isEnabled then
    let (connecting, state) := surroundings.connect resource trace.state
    let trace := ⟨state, trace.cancelled || connecting.cancels, trace.calls⟩
    match connecting.result with
    | .ok connection =>
        let (outcome, trace) :=
          Pass.run connection.remote resource.spec connection.orgId trace
        (.ok outcome, trace)
    | .error (.connection secret message) => (.ok (secretInvalid secret message), trace)
    | .error error => (.error error, trace)
  else
    (.ok (.settled (some Convergence.notEnabled)), trace)

/-- The end of a reconciliation that writes nothing. -/
def withoutPatch {σ : Type} (resource : FederatedAuth) (trace : Trace σ)
    (result : Except OperatorError Action) : Reconciliation σ :=
  ⟨result, none, resource, trace.calls, trace.cancelled, trace.state⟩

/-- An outcome is recorded unless the status says so already. -/
def recordOutcome {σ : Type} (surroundings : Surroundings σ) (intervals : Intervals)
    (now : Timestamp) (namespaceName : String) (resource : FederatedAuth) (outcome : Outcome)
    (trace : Trace σ) : Reconciliation σ :=
  let action := intervals.actionFor outcome.followUp
  let status := resource.statusAfter outcome now
  if resource.status = some status then
    withoutPatch resource trace (.ok action)
  else
    let patch : StatusPatch := ⟨namespaceName, resource.metadata.anyName, status⟩
    match surroundings.patchStatus patch trace.state with
    | (.ok (), state) =>
        ⟨.ok action, some patch, { resource with status := some status }, trace.calls,
          trace.cancelled, state⟩
    | (.error error, state) =>
        ⟨.error error, some patch, resource, trace.calls, trace.cancelled, state⟩

end Reconciliation

/-- Reconciling a resource. A pass that was cut short leaves the status as it is. -/
def reconcile {σ : Type} (surroundings : Surroundings σ) (intervals : Intervals)
    (now : Timestamp) (resource : FederatedAuth) (cancelled : Bool) (state : σ) :
    Reconciliation σ :=
  let trace := Trace.start state cancelled
  match resource.metadata.namespaceName with
  | none => .withoutPatch resource trace (.error (Reconciliation.namespaceMissing resource))
  | some namespaceName =>
      match Reconciliation.pass surroundings resource trace with
      | (.error error, trace) => .withoutPatch resource trace (.error error)
      | (.ok outcome, trace) =>
          if trace.cancelled then
            .withoutPatch resource trace (.ok .awaitChange)
          else
            .recordOutcome surroundings intervals now namespaceName resource outcome trace

end OrgFederation

import OrgFederation.Reconciliation.Run

namespace OrgFederation

variable {σ β : Type}

namespace Reconciliation

section Cases

variable (surroundings : Surroundings σ) (intervals : Intervals) (now : Timestamp)
  (resource : FederatedAuth) (cancelled : Bool) (state : σ)

/-- The pass of a reconciliation from its start. -/
abbrev passed : Except OperatorError Outcome × Trace σ :=
  pass surroundings resource (Trace.start state cancelled)

/-- The ways in which a reconciliation ends. -/
inductive Ends : Reconciliation σ → Prop where
  | unnamespaced (missing : resource.metadata.namespaceName = none) :
      Ends (withoutPatch resource (Trace.start state cancelled)
        (.error (namespaceMissing resource)))
  | failed {namespaceName : String} {error : OperatorError} {trace : Trace σ}
      (placed : resource.metadata.namespaceName = some namespaceName)
      (ended : passed surroundings resource cancelled state = (.error error, trace)) :
      Ends (withoutPatch resource trace (.error error))
  | cut {namespaceName : String} {outcome : Outcome} {trace : Trace σ}
      (placed : resource.metadata.namespaceName = some namespaceName)
      (ended : passed surroundings resource cancelled state = (.ok outcome, trace))
      (stopped : trace.cancelled = true) :
      Ends (withoutPatch resource trace (.ok .awaitChange))
  | unchanged {namespaceName : String} {outcome : Outcome} {trace : Trace σ}
      (placed : resource.metadata.namespaceName = some namespaceName)
      (ended : passed surroundings resource cancelled state = (.ok outcome, trace))
      (active : trace.cancelled = false)
      (same : resource.status = some (resource.statusAfter outcome now)) :
      Ends (withoutPatch resource trace (.ok (intervals.actionFor outcome.followUp)))
  | written {namespaceName : String} {outcome : Outcome} {trace : Trace σ} {later : σ}
      (placed : resource.metadata.namespaceName = some namespaceName)
      (ended : passed surroundings resource cancelled state = (.ok outcome, trace))
      (active : trace.cancelled = false)
      (differs : resource.status ≠ some (resource.statusAfter outcome now))
      (patched : surroundings.patchStatus ⟨namespaceName, resource.metadata.anyName,
        resource.statusAfter outcome now⟩ trace.state = (.ok (), later)) :
      Ends ⟨.ok (intervals.actionFor outcome.followUp),
        some ⟨namespaceName, resource.metadata.anyName, resource.statusAfter outcome now⟩,
        { resource with status := some (resource.statusAfter outcome now) }, trace.calls,
        trace.cancelled, later⟩
  | refused {namespaceName : String} {outcome : Outcome} {trace : Trace σ} {later : σ}
      {error : OperatorError}
      (placed : resource.metadata.namespaceName = some namespaceName)
      (ended : passed surroundings resource cancelled state = (.ok outcome, trace))
      (active : trace.cancelled = false)
      (differs : resource.status ≠ some (resource.statusAfter outcome now))
      (patched : surroundings.patchStatus ⟨namespaceName, resource.metadata.anyName,
        resource.statusAfter outcome now⟩ trace.state = (.error error, later)) :
      Ends ⟨.error error,
        some ⟨namespaceName, resource.metadata.anyName, resource.statusAfter outcome now⟩,
        resource, trace.calls, trace.cancelled, later⟩

/-- A reconciliation ends in one of these ways. -/
theorem ends : Ends surroundings intervals now resource cancelled state
    (reconcile surroundings intervals now resource cancelled state) := by
  rw [reconcile]
  split
  · exact .unnamespaced ‹_›
  · rename_i namespaceName placed
    split
    · exact .failed placed ‹_›
    · rename_i outcome trace ended
      split
      · exact .cut placed ended ‹_›
      · rename_i active
        rw [Bool.not_eq_true] at active
        rw [recordOutcome]
        dsimp only
        split
        · exact .unchanged placed ended active ‹_›
        · rename_i differs
          split
          · exact .written placed ended active differs ‹_›
          · exact .refused placed ended active differs ‹_›

variable {surroundings intervals now resource cancelled state} {done : Reconciliation σ}

/-- The calls of a reconciliation are those of its pass, unless it has no namespace. -/
theorem Ends.calls (ends : Ends surroundings intervals now resource cancelled state done) :
    done.calls = if resource.metadata.namespaceName = none then []
      else (passed surroundings resource cancelled state).2.calls := by
  cases ends with
  | unnamespaced missing => rw [if_pos missing]; rfl
  | failed placed ended | cut placed ended _ | unchanged placed ended _ _
  | written placed ended _ _ _ | refused placed ended _ _ _ =>
      rw [if_neg (by simp [placed])]
      exact (congrArg (·.2.calls) ended).symm

/-- What a status patch does not change is as the pass left it, unless there is no namespace. -/
theorem Ends.view (ends : Ends surroundings intervals now resource cancelled state done)
    (view : σ → β)
    (kept : ∀ patch state, view (surroundings.patchStatus patch state).2 = view state) :
    view done.state = if resource.metadata.namespaceName = none then view state
      else view (passed surroundings resource cancelled state).2.state := by
  cases ends with
  | unnamespaced missing => rw [if_pos missing]; rfl
  | failed placed ended | cut placed ended _ | unchanged placed ended _ _ =>
      rw [if_neg (by simp [placed])]
      exact (congrArg (fun pass => view pass.2.state) ended).symm
  | written placed ended _ _ patched | refused placed ended _ _ patched =>
      rw [if_neg (by simp [placed]), ended]
      exact (congrArg (fun patching => view patching.2) patched).symm.trans (kept _ _)

end Cases

section Passing

variable {surroundings : Surroundings σ} {resource : FederatedAuth} {trace : Trace σ}

/-- The run of a pass behind its connecting. -/
def connectedTrace (surroundings : Surroundings σ) (resource : FederatedAuth) (trace : Trace σ) :
    Trace σ :=
  ⟨(surroundings.connect resource trace.state).2,
    trace.cancelled || (surroundings.connect resource trace.state).1.cancels, trace.calls⟩

/-- A declaration that is not enabled needs no connection. -/
theorem pass_disabled (surroundings : Surroundings σ) (trace : Trace σ)
    (disabled : resource.spec.isEnabled = false) :
    pass surroundings resource trace = (.ok (.settled (some Convergence.notEnabled)), trace) := by
  rw [pass, if_neg (by simp [disabled])]

/-- A connection leads to a pass over its remote. -/
theorem pass_connected {connection : Connection σ} (enabled : resource.spec.isEnabled = true)
    (connected : (surroundings.connect resource trace.state).1.result = .ok connection) :
    pass surroundings resource trace =
      let ran := Pass.run connection.remote resource.spec connection.orgId
        (connectedTrace surroundings resource trace)
      (.ok ran.1, ran.2) := by
  rw [pass, if_pos enabled]
  dsimp only
  rw [connected]
  rfl

/-- A secret that leads nowhere is an outcome without a call. -/
theorem pass_unconnected {secret message : String} (enabled : resource.spec.isEnabled = true)
    (connected : (surroundings.connect resource trace.state).1.result =
      .error (.connection secret message)) :
    pass surroundings resource trace =
      (.ok (secretInvalid secret message), connectedTrace surroundings resource trace) := by
  rw [pass, if_pos enabled]
  dsimp only
  rw [connected]
  rfl

/-- Any other error on the way to a connection is the end. -/
theorem pass_failed {error : OperatorError} (enabled : resource.spec.isEnabled = true)
    (connected : (surroundings.connect resource trace.state).1.result = .error error)
    (other : ∀ secret message, error ≠ .connection secret message) :
    pass surroundings resource trace =
      (.error error, connectedTrace surroundings resource trace) := by
  rw [pass, if_pos enabled]
  dsimp only
  rw [connected]
  cases error with
  | connection secret message => exact absurd rfl (other secret message)
  | _ => rfl

/-- Without a connection the run goes no further than connecting. -/
theorem pass_trace_of_error {error : OperatorError} (enabled : resource.spec.isEnabled = true)
    (connected : (surroundings.connect resource trace.state).1.result = .error error) :
    (pass surroundings resource trace).2 = connectedTrace surroundings resource trace := by
  by_cases other : ∀ secret message, error ≠ .connection secret message
  · rw [pass_failed enabled connected other]
  · cases error with
    | connection secret message => rw [pass_unconnected enabled connected]
    | _ => exact absurd (by simp) other

/-- Connecting fails for another cause than the secret of the resource. -/
def Unreached (surroundings : Surroundings σ) (resource : FederatedAuth) (state : σ)
    (error : OperatorError) : Prop :=
  resource.spec.isEnabled = true ∧
    (surroundings.connect resource state).1.result = .error error ∧
    ∀ secret message, error ≠ .connection secret message

/-- A pass fails exactly when connecting does, for another cause than the secret. -/
theorem pass_error_iff {error : OperatorError} :
    (pass surroundings resource trace).1 = .error error ↔
      Unreached surroundings resource trace.state error := by
  rw [Unreached]
  cases enabled : resource.spec.isEnabled with
  | false => simp [pass_disabled surroundings trace enabled]
  | true =>
      cases connected : (surroundings.connect resource trace.state).1.result with
      | ok connection => simp [pass_connected enabled connected]
      | error cause =>
          by_cases other : ∀ secret message, cause ≠ .connection secret message
          · rw [pass_failed enabled connected other]
            constructor
            · intro same
              cases same
              exact ⟨rfl, rfl, other⟩
            · rintro ⟨_, same, _⟩
              cases same
              rfl
          · cases cause with
            | connection secret message =>
                rw [pass_unconnected enabled connected]
                constructor
                · intro same
                  cases same
                · rintro ⟨_, same, apart⟩
                  cases same
                  exact absurd rfl (apart secret message)
            | _ => exact absurd (by simp) other

end Passing

end Reconciliation

end OrgFederation

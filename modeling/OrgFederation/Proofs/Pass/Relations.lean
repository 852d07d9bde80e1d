import OrgFederation.Pass.Convergence

namespace OrgFederation

variable {σ τ : Type}

/-- A relation between the steps of passes over two remotes that holds of their calls and is kept
when steps are put together. What it says may be weaker at some failures, the early ones. -/
structure PassM.Relation (first : Remote σ) (second : Remote τ) where
  Holds {ε α : Type} (early : ε → Prop) : PassM σ ε α → PassM τ ε α → Prop
  of_pure {ε α : Type} {early : ε → Prop} (value : α) : Holds early (pure value) (pure value)
  of_throw {ε α : Type} {early : ε → Prop} (failure : ε) :
    Holds early (throw failure : PassM σ ε α) (throw failure)
  bind {ε α β : Type} {early : ε → Prop} {step : PassM σ ε α} {beside : PassM τ ε α}
    {next : α → PassM σ ε β} {nextBeside : α → PassM τ ε β} (steps : Holds early step beside)
    (nexts : ∀ value, Holds early (next value) (nextBeside value)) :
    Holds early (step >>= next) (beside >>= nextBeside)
  failAs {ε δ α : Type} {early : ε → Prop} {later : δ → Prop} {step : PassM σ ε α}
    {beside : PassM τ ε α} (rename : ε → δ) (steps : Holds early step beside)
    (renamed : ∀ failure, early failure → later (rename failure)) :
    Holds later (step.failAs fun _ => rename) (beside.failAs fun _ => rename)
  search {α : Type} {early : MappingError → Prop} {step : PassM σ MappingError α}
    {beside : PassM τ MappingError α} (steps : Holds early step beside) :
    Holds (· = PassError.cancelled) (step.failAs Convergence.configFailure)
      (beside.failAs Convergence.configFailure)
  ask (call : Call) : Holds (· = CallError.cancelled) (first.ask call) (second.ask call)

namespace PassM.Relation

variable {first : Remote σ} {second : Remote τ} (relation : PassM.Relation first second)

theorem ask_ofApi (call : Call) (step : CallError → PassError) :
    relation.Holds (· = PassError.cancelled)
      ((first.ask call).failAs fun _ => PassError.ofApi step)
      ((second.ask call).failAs fun _ => PassError.ofApi step) :=
  relation.failAs _ (relation.ask call) fun _ told => told ▸ rfl

theorem projectId (orgId : String) (ids : ProjectIds) (name : String) :
    relation.Holds (fun _ => True) (projectId first orgId ids name)
      (projectId second orgId ids name) := by
  unfold OrgFederation.projectId
  split
  · exact relation.of_throw _
  · split
    · exact relation.of_pure _
    · refine relation.bind (relation.failAs _ (relation.ask _) fun _ _ => trivial) fun project => ?_
      split
      · exact relation.of_pure _
      · exact relation.of_throw _

theorem assignments (orgId group : String) (ids : ProjectIds) (list : List RoleAssignment) :
    relation.Holds (fun _ => True) (DesiredConfig.assignments first orgId group ids list)
      (DesiredConfig.assignments second orgId group ids list) := by
  induction list generalizing ids with
  | nil => exact relation.of_pure _
  | cons assignment rest ih =>
      exact relation.bind
        (relation.failAs _ (relation.projectId _ _ _) fun _ _ => trivial) fun found =>
          relation.bind (ih _) fun others => relation.of_pure _

theorem mappings (orgId providerId : String) (ids : ProjectIds) (list : List RoleMapping) :
    relation.Holds (fun _ => True) (DesiredConfig.mappings first orgId providerId ids list)
      (DesiredConfig.mappings second orgId providerId ids list) := by
  induction list generalizing ids with
  | nil => exact relation.of_pure _
  | cons mapping rest ih =>
      exact relation.bind (relation.assignments _ _ _ _) fun roles =>
        relation.bind (ih _) fun others => relation.of_pure _

theorem desiredConfig (orgId providerId : String) (spec : Spec) :
    relation.Holds (fun _ => True) (desiredConfig first orgId providerId spec)
      (desiredConfig second orgId providerId spec) :=
  relation.bind (relation.mappings _ _ _ _) fun _ => relation.of_pure _

theorem settleProvider (spec : Spec) (settingsId providerId : String) :
    relation.Holds (· = PassError.cancelled)
      (Convergence.settleProvider first spec settingsId providerId)
      (Convergence.settleProvider second spec settingsId providerId) := by
  refine relation.bind (relation.ask_ofApi _ _) fun provider => ?_
  split
  · exact relation.of_pure _
  · split
    · exact relation.of_pure _
    · exact relation.bind (relation.ask_ofApi _ _) fun _ => relation.of_pure _

theorem settleConfig (settingsId orgId : String) (desired : DesiredOrgConfig)
    (observed : ConnectedOrgConfig) :
    relation.Holds (· = PassError.cancelled)
      (Convergence.settleConfig first settingsId orgId desired observed)
      (Convergence.settleConfig second settingsId orgId desired observed) := by
  unfold Convergence.settleConfig
  split
  · exact relation.of_pure _
  · refine relation.bind (relation.ask_ofApi _ _) fun updated => ?_
    split
    · exact relation.of_pure _
    · exact relation.of_throw _

/-- The relation holds of passes. -/
theorem steps (spec : Spec) (orgId : String) :
    relation.Holds (· = PassError.cancelled) (Convergence.steps first spec orgId)
      (Convergence.steps second spec orgId) := by
  refine relation.bind (relation.ask_ofApi _ _) fun settings =>
    relation.bind (relation.ask_ofApi _ _) fun observed => ?_
  have rest := relation.bind
    (relation.search (relation.desiredConfig orgId observed.identityProviderId spec)) fun desired =>
      relation.bind (relation.settleProvider spec settings.id observed.identityProviderId) fun _ =>
        relation.settleConfig settings.id orgId desired observed
  split
  · exact relation.bind (relation.of_throw _) fun _ => rest
  · exact rest

end PassM.Relation

end OrgFederation

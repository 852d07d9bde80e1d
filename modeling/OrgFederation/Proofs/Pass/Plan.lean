import OrgFederation.Proofs.Pass.Steps
import OrgFederation.Proofs.Pass.Translation

namespace OrgFederation

/-- Answers to calls, each of which comes after others. -/
abbrev Answers := List Call → (call : Call) → Except CallError call.Answer

namespace Protocol

/-- A step of a plan asks for the answer to a call or needs a text that is not empty. -/
inductive Step where
  | asks (call : Call)
  | needs (text : String)

/-- The call of a step, if it has one. -/
def Step.call? : Step → Option Call
  | .asks call => some call
  | .needs _ => none

/-- A call fails when its answer is an error or a project of another organization. -/
def fails (orgId : String) : (call : Call) → Except CallError call.Answer → Bool
  | .projectByName _, .ok project => Project.orgId project != orgId
  | _, .ok _ => false
  | _, .error _ => true

/-- A call that is no lookup fails by an error alone. -/
theorem fails_of_other (orgId : String) {call : Call} (other : ∀ name, call ≠ .projectByName name)
    (answer : Except CallError call.Answer) : fails orgId call answer = !answer.isOk := by
  cases call with
  | projectByName name => exact absurd rfl (other name)
  | _ => cases answer <;> rfl

section Following

variable (orgId : String) (answers : Answers)

/-- A plan is passed when none of its steps fails. -/
def passes : List Call → List Step → Bool
  | _, [] => true
  | earlier, .needs text :: rest => !text.isEmpty && passes earlier rest
  | earlier, .asks call :: rest =>
      !fails orgId call (answers earlier call) && passes (earlier ++ [call]) rest

/-- The calls of a plan that are made after earlier calls. The first step that fails is the last. -/
def callsMade : List Call → List Step → List Call
  | _, [] => []
  | earlier, .needs text :: rest => if text.isEmpty then [] else callsMade earlier rest
  | earlier, .asks call :: rest =>
      call ::
        if fails orgId call (answers earlier call) then [] else callsMade (earlier ++ [call]) rest

variable {orgId : String} {answers : Answers}

/-- The calls that are made begin the calls of the plan. -/
theorem callsMade_planned (earlier : List Call) (plan : List Step) :
    callsMade orgId answers earlier plan <+: plan.filterMap Step.call? := by
  induction plan generalizing earlier with
  | nil => exact List.prefix_rfl
  | cons step rest ih =>
      cases step with
      | needs text =>
          rw [callsMade, List.filterMap_cons_none (by rfl)]
          split
          · exact List.nil_prefix
          · exact ih earlier
      | asks call =>
          rw [callsMade, List.filterMap_cons_some (by rfl)]
          refine (List.prefix_cons_inj call).mpr ?_
          split
          · exact List.nil_prefix
          · exact ih _

/-- A plan that is passed makes all of its calls. -/
theorem callsMade_of_passes {earlier : List Call} {plan : List Step}
    (passed : passes orgId answers earlier plan = true) :
    callsMade orgId answers earlier plan = plan.filterMap Step.call? := by
  induction plan generalizing earlier with
  | nil => rfl
  | cons step rest ih =>
      cases step with
      | needs text =>
          simp only [passes, Bool.and_eq_true, Bool.not_eq_true'] at passed
          rw [callsMade, List.filterMap_cons_none (by rfl), if_neg (by simp [passed.1]),
            ih passed.2]
      | asks call =>
          simp only [passes, Bool.and_eq_true, Bool.not_eq_true'] at passed
          rw [callsMade, List.filterMap_cons_some (by rfl), if_neg (by simp [passed.1]),
            ih passed.2]

/-- A plan goes on with another one when it is passed. -/
theorem callsMade_append (earlier : List Call) (first second : List Step) :
    callsMade orgId answers earlier (first ++ second) =
      callsMade orgId answers earlier first ++
        if passes orgId answers earlier first then
          callsMade orgId answers (earlier ++ callsMade orgId answers earlier first) second
        else
          [] := by
  induction first generalizing earlier with
  | nil => simp [callsMade, passes]
  | cons step rest ih =>
      cases step with
      | needs text =>
          cases empty : text.isEmpty <;> simp [callsMade, passes, empty, ih]
      | asks call =>
          cases failed : fails orgId call (answers earlier call) <;>
            simp [callsMade, passes, failed, ih]

end Following

/-- The calls that look projects up, each name given. -/
def lookups (names : List String) : List Step :=
  names.flatMap fun name => [.needs name, .asks (.projectByName name)]

theorem lookups_calls (names : List String) :
    (lookups names).filterMap Step.call? = names.map .projectByName := by
  induction names with
  | nil => rfl
  | cons name rest ih => exact congrArg (.projectByName name :: ·) ih

/-- The calls about an identity provider. -/
def providerPlan (spec : Spec) (settingsId providerId : String)
    (provider : IdentityProviderSettings) : List Step :=
  .asks (.identityProvider settingsId providerId) ::
    if spec.changesProvider provider then
      [.asks (.updateIdentityProvider settingsId providerId (spec.settledProvider provider))]
    else
      []

/-- The calls about a configuration that has been read. -/
def configPlan (settingsId orgId : String) (desired : DesiredOrgConfig)
    (observed : ConnectedOrgConfig) : List Step :=
  if differingFields desired observed = [] then
    []
  else
    [.asks (.updateConnectedOrgConfig settingsId orgId desired)]

/-- What an answer reports; anything when it is an error, behind which no plan goes on. -/
def reported {α : Type} [Inhabited α] (answer : Except CallError α) : α :=
  match answer with
  | .ok value => value
  | .error _ => default

/-- The project of a name that is looked up after earlier calls and the names before it. -/
def projectOf (answers : Answers) (earlier : List Call) (names : List String) (name : String) :
    Except CallError Project :=
  answers (earlier ++ (names.takeWhile (· != name)).map .projectByName) (.projectByName name)

/-- A name has an id when it is given and its lookup does not fail. -/
theorem idByLookup_isOk (orgId : String) (lookup : String → Except CallError Project)
    (name : String) : (idByLookup orgId lookup name).isOk =
      (!name.isEmpty && !fails orgId (.projectByName name) (lookup name)) := by
  rw [idByLookup]
  cases empty : name.isEmpty with
  | true => rfl
  | false =>
      cases found : lookup name with
      | error cause => rfl
      | ok project =>
          by_cases owned : project.orgId = orgId <;>
            simp [owned, fails, Except.isOk, Except.toBool]

/-- An id that is found is the one of the project that is reported. -/
theorem reported_of_idByLookup {orgId : String} {lookup : String → Except CallError Project}
    {name id : String} (found : idByLookup orgId lookup name = .ok id) :
    id = (reported (lookup name)).id := by
  rw [idByLookup, if_neg (by simp [idByLookup_nonempty found])] at found
  cases answered : lookup name with
  | error cause => rw [answered] at found; cases found
  | ok project =>
      rw [answered] at found
      dsimp only at found
      split at found
      · exact (Except.ok.inj found).symm
      · cases found

/-- The names before one in a list without repetition are those that come before it. -/
theorem projectOf_of_next {answers : Answers} {earlier : List Call}
    {names seen rest : List String} {name : String} (distinct : names.Nodup)
    (split : names = seen ++ name :: rest) :
    projectOf answers earlier names name =
      answers (earlier ++ seen.map .projectByName) (.projectByName name) := by
  have fresh : ∀ other ∈ seen, (other != name) = true := by
    intro other member
    rw [split] at distinct
    have apart := (List.nodup_append.mp distinct).2.2 other member name List.mem_cons_self
    simpa using apart
  rw [projectOf, split, List.takeWhile_append_of_pos fresh, List.takeWhile_cons_of_neg (by simp),
    List.append_nil]

/-- Lookups are made as names are asked for, and their plan is passed when all names have ids. -/
theorem lookups_reached (orgId : String) (answers : Answers) (earlier : List Call)
    {names : List String} (distinct : names.Nodup) (seen rest : List String)
    (split : names = seen ++ rest) :
    let resolve := idByLookup orgId (projectOf answers earlier names)
    callsMade orgId answers (earlier ++ seen.map .projectByName) (lookups rest) =
        (askedNames resolve rest).map .projectByName ∧
      passes orgId answers (earlier ++ seen.map .projectByName) (lookups rest) =
        rest.all fun name => (resolve name).isOk := by
  intro resolve
  -- The names in `seen` are the ones before the next name, which is looked up behind them.
  induction rest generalizing seen with
  | nil => exact ⟨rfl, rfl⟩
  | cons name rest ih =>
      obtain ⟨made, passed⟩ := ih (seen ++ [name]) (by simp [split])
      have found : (resolve name).isOk = (!name.isEmpty && !fails orgId (.projectByName name)
          (answers (earlier ++ seen.map .projectByName) (.projectByName name))) := by
        rw [idByLookup_isOk, projectOf_of_next distinct split]
      simp only [List.map_append, List.map_cons, List.map_nil, ← List.append_assoc] at made passed
      have plan : lookups (name :: rest) =
          .needs name :: .asks (.projectByName name) :: lookups rest := rfl
      rw [plan, callsMade, callsMade, passes, passes, askedNames, List.all_cons, made, passed,
        found]
      cases name.isEmpty with
      | true => exact ⟨rfl, rfl⟩
      | false =>
          cases fails orgId (.projectByName name)
            (answers (earlier ++ seen.map .projectByName) (.projectByName name)) <;>
            exact ⟨rfl, rfl⟩

/-- The plan of a pass behind its opening, in which the settings and the configuration were read.
Projects and provider are the ones that are reported on the way. -/
def linkedPlan (spec : Spec) (orgId settingsId : String) (observed : ConnectedOrgConfig)
    (answers : Answers) : List Step :=
  let opening := [.federationSettings orgId, .connectedOrgConfig settingsId orgId]
  let names := spec.projectNames.eraseDups
  let idOf (name : String) : String := (reported (projectOf answers opening names name)).id
  let provider : IdentityProviderSettings := reported (answers
    (opening ++ names.map .projectByName)
    (.identityProvider settingsId observed.identityProviderId))
  lookups names ++
    (providerPlan spec settingsId observed.identityProviderId provider ++
      configPlan settingsId orgId (spec.configWith idOf orgId observed.identityProviderId) observed)

/-- The plan of a pass, with the settings and the configuration that are reported on the way. -/
def plan (spec : Spec) (orgId : String) (answers : Answers) : List Step :=
  let settings : FederationSettings := reported (answers [] (.federationSettings orgId))
  let observed : ConnectedOrgConfig := reported
    (answers [.federationSettings orgId] (.connectedOrgConfig settings.id orgId))
  .asks (.federationSettings orgId) :: .asks (.connectedOrgConfig settings.id orgId) ::
    .needs observed.identityProviderId :: linkedPlan spec orgId settings.id observed answers

end Protocol

end OrgFederation

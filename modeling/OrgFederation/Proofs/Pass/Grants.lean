import OrgFederation.Proofs.Pass.Course

namespace OrgFederation

variable {σ : Type}

namespace Protocol

/-- One of some calls is answered with a value. -/
def Told (answers : Answers) (calls : List Call) (call : Call) (value : call.Answer) : Prop :=
  ∃ earlier later, calls = earlier ++ call :: later ∧ answers earlier call = .ok value

variable {spec : Spec} {orgId : String} {answers : Answers} {earlier before rest : List Call}
  {first second : List Step} {call : Call}

/-- The first part of a plan that is passed is passed. -/
theorem passes_of_append (passed : passes orgId answers earlier (first ++ second) = true) :
    passes orgId answers earlier first = true := by
  rw [passes_eq_all, course_append, List.all_append, Bool.and_eq_true, ← passes_eq_all] at passed
  exact passed.1

/-- A call that is made is planned, the calls made before it are all of those planned before it, and
no step before it fails. -/
theorem callsMade_divided {plan : List Step}
    (made : callsMade orgId answers earlier plan = before ++ call :: rest) :
    ∃ first second, plan = first ++ .asks call :: second ∧
      first.filterMap Step.call? = before ∧ passes orgId answers earlier first = true := by
  -- A step that fails ends the calls, so the call in question is the step itself or behind it.
  induction plan generalizing earlier before with
  | nil => simp [callsMade] at made
  | cons step plan ih =>
      cases step with
      | needs text =>
          rw [callsMade] at made
          cases given : text.isEmpty with
          | true => simp [given] at made
          | false =>
              rw [given, if_neg (by simp)] at made
              obtain ⟨first, second, rfl, calls, passed⟩ := ih made
              exact ⟨.needs text :: first, second, rfl, calls, by simp [passes, given, passed]⟩
      | asks next =>
          rw [callsMade] at made
          cases before with
          | nil =>
              obtain ⟨rfl, _⟩ := List.cons.inj made
              exact ⟨[], plan, rfl, rfl, rfl⟩
          | cons other before =>
              obtain ⟨rfl, later⟩ := List.cons.inj made
              cases failed : fails orgId next (answers earlier next) with
              | true => simp [failed] at later
              | false =>
                  rw [failed, if_neg (by simp)] at later
                  obtain ⟨first, second, rfl, calls, passed⟩ := ih later
                  exact ⟨.asks next :: first, second, rfl, congrArg (next :: ·) calls,
                    by simp [passes, failed, passed]⟩

/-- Steps end before a step that is not among them when at most one step follows. -/
theorem steps_before {last : List Step} {step : Step} (short : last.length ≤ 1)
    (other : step ∉ first) {front behind : List Step}
    (divided : first ++ last = front ++ step :: behind) : front = first ∧ last = [step] := by
  rcases divided_append divided with ⟨_, among⟩ | ⟨between, rfl, same⟩
  · exact absurd (by simp [among]) other
  · rw [same] at short
    have alone : between = [] ∧ behind = [] := by
      cases between <;> cases behind <;> simp at short ⊢
    rw [same, alone.1, alone.2, List.append_nil]
    exact ⟨rfl, rfl⟩

/-- At most one write of the configuration is planned. -/
theorem configPlan_short (settingsId orgId : String) (desired : DesiredOrgConfig)
    (observed : ConnectedOrgConfig) :
    (configPlan settingsId orgId desired observed).length ≤ 1 := by
  rw [configPlan]
  split <;> simp

/-- Before it, no write of the configuration is planned. -/
theorem unwritten_before (org readFrom needed settingsId providerId : String)
    (names : List String) (provider : IdentityProviderSettings) {write : Call}
    (writes : write.writesConfig = true) :
    .asks write ∉ .asks (.federationSettings org) :: .asks (.connectedOrgConfig readFrom org) ::
      .needs needed :: (lookups names ++ providerPlan spec settingsId providerId provider) := by
  intro planned
  have inner := Call.inner_of_writesConfig writes
  simp only [List.mem_cons, List.mem_append, Step.asks.injEq, reduceCtorEq, false_or] at planned
  rcases planned with rfl | rfl | lookup | about
  · cases writes
  · cases writes
  · cases inner.symm.trans (lookups_inner _ _ lookup)
  · cases inner.symm.trans (providerPlan_inner _ _ _ _ _ about)

/-- A write of the configuration is planned last, with the ids that are reported before it. -/
theorem plan_at_write {settingsId org : String} {config : DesiredOrgConfig}
    (divided : plan spec orgId answers =
      first ++ .asks (.updateConnectedOrgConfig settingsId org config) :: second) :
    let opening := [.federationSettings orgId, .connectedOrgConfig settingsId orgId]
    let names := spec.projectNames.eraseDups
    let lookup := projectOf answers opening names
    let observed : ConnectedOrgConfig :=
      reported (answers [.federationSettings orgId] (.connectedOrgConfig settingsId orgId))
    org = orgId ∧
      config = spec.configWith (fun name => (reported (lookup name)).id) orgId
        observed.identityProviderId ∧
      ∃ about, first = .asks (.federationSettings orgId) ::
        .asks (.connectedOrgConfig settingsId orgId) :: .needs observed.identityProviderId ::
          (lookups names ++ about) := by
  intro opening names lookup observed
  rw [plan, linkedPlan, ← List.append_assoc, ← List.cons_append, ← List.cons_append,
    ← List.cons_append] at divided
  obtain ⟨front, last⟩ :=
    steps_before (configPlan_short _ _ _ _) (unwritten_before _ _ _ _ _ _ _ rfl) divided
  rw [configPlan] at last
  split at last
  · cases last
  · have write := Step.asks.inj (List.singleton_inj.mp last)
    injection write with settings organization written
    subst settings organization written
    exact ⟨rfl, rfl, _, front⟩

/-- When all lookups of a plan are passed, each name is reported as a project of the
organization. -/
theorem project_of_passed {names : List String} (distinct : names.Nodup)
    (passed : passes orgId answers earlier (lookups names) = true) {name : String}
    (member : name ∈ names) :
    projectOf answers earlier names name = .ok (reported (projectOf answers earlier names name)) ∧
      (reported (projectOf answers earlier names name)).orgId = orgId := by
  have resolved := (lookups_reached orgId answers earlier distinct [] names rfl).2
  rw [List.map_nil, List.append_nil, passed] at resolved
  have found := List.all_eq_true.mp resolved.symm name member
  rw [idByLookup_isOk, Bool.and_eq_true] at found
  cases answered : projectOf answers earlier names name with
  | error cause =>
      rw [answered] at found
      cases found.2
  | ok project =>
      rw [answered] at found
      have owned : (!(project.orgId != orgId)) = true := found.2
      have same : project.orgId = orgId := by simpa using owned
      exact ⟨rfl, same⟩

/-- A configuration that a plan comes to write has the ids of projects of the organization, each
told before it for its own name. -/
theorem written_grants {settingsId org : String} {config : DesiredOrgConfig}
    (reached : callsMade orgId answers [] (plan spec orgId answers) =
      before ++ .updateConnectedOrgConfig settingsId org config :: rest) :
    org = orgId ∧ ∃ observed : ConnectedOrgConfig, ∃ project : String → Project,
      Told answers before (.connectedOrgConfig settingsId orgId) observed ∧
      (∀ name ∈ spec.projectNames,
        Told answers before (.projectByName name) (project name) ∧
          (project name).orgId = orgId) ∧
      config = spec.configWith (fun name => (project name).id) orgId
        observed.identityProviderId := by
  obtain ⟨first, second, planned, calls, passed⟩ := callsMade_divided reached
  obtain ⟨rfl, rfl, about, rfl⟩ := plan_at_write planned
  simp only [passes, Bool.and_eq_true, List.nil_append, List.singleton_append] at passed
  obtain ⟨_, read, _, searched⟩ := passed
  have distinct := nodup_eraseDups spec.projectNames
  have looked : before = [.federationSettings org, .connectedOrgConfig settingsId org] ++
      (spec.projectNames.eraseDups.map .projectByName ++ about.filterMap Step.call?) := by
    rw [← calls, ← lookups_calls, ← List.filterMap_append]
    rfl
  cases answered : answers [.federationSettings org] (.connectedOrgConfig settingsId org) with
  | error cause =>
      rw [answered] at read
      cases read
  | ok observed =>
      refine ⟨rfl, observed, _, ⟨_, _, looked, answered⟩, fun name member => ?_, rfl⟩
      have unique : name ∈ spec.projectNames.eraseDups := List.mem_eraseDups.mpr member
      obtain ⟨found, owned⟩ := project_of_passed distinct (passes_of_append searched) unique
      obtain ⟨seen, later, names⟩ := List.append_of_mem unique
      have divided : before = [.federationSettings org, .connectedOrgConfig settingsId org] ++
          seen.map .projectByName ++ .projectByName name ::
            (later.map .projectByName ++ about.filterMap Step.call?) := by
        rw [looked, names]
        simp
      exact ⟨⟨_, _, divided, (projectOf_of_next distinct names).symm.trans found⟩, owned⟩

end Protocol

namespace Pass

/-- Every configuration that a pass writes is of its own organization and of the identity provider
that it read. It grants one role for each assignment of the declaration, in a project that the
remote reported in this pass, for the very name of the assignment, as one of the organization. -/
theorem grants_stay_inside (remote : Remote σ) (spec : Spec) (orgId : String) (state : σ)
    (cancelled : Bool) {before rest : List Call} {settingsId org : String}
    {config : DesiredOrgConfig}
    (made : (Pass.run remote spec orgId (Trace.start state cancelled)).2.calls =
      before ++ .updateConnectedOrgConfig settingsId org config :: rest) :
    let answers := remote.answer state
    org = orgId ∧ config.orgId = orgId ∧
      (∃ observed : ConnectedOrgConfig,
        Protocol.Told answers before (.connectedOrgConfig settingsId orgId) observed ∧
        config.identityProviderId = observed.identityProviderId) ∧
      ∃ project : String → Project,
        (∀ name ∈ spec.projectNames,
          Protocol.Told answers before (.projectByName name) (project name) ∧
            (project name).orgId = orgId) ∧
        config.roleMappings = spec.roleMappings.map fun mapping =>
          { externalGroupName := mapping.externalGroupName
            id := some config.identityProviderId
            roleAssignments := mapping.roleAssignments.map fun assignment =>
              { groupId := some (project assignment.projectName).id
                orgId := none
                role := assignment.role } } := by
  intro answers
  cases enabled : spec.isEnabled with
  | false =>
      rw [run_disabled remote orgId _ enabled] at made
      simp [Trace.start] at made
  | true =>
      obtain ⟨_, refused, reached, _, answered⟩ :=
        Protocol.run_calls remote enabled orgId state cancelled
      rw [made] at reached answered
      rw [List.append_assoc, List.cons_append] at reached
      -- What the pass was told before the write is what the remote answered.
      have reported {call : Call} {value : call.Answer}
          (told : Protocol.Told (remote.attempt (Trace.start state cancelled)) before call value) :
          Protocol.Told answers before call value := by
        obtain ⟨earlier, later, divided, reply⟩ := told
        refine ⟨earlier, later, divided, ?_⟩
        rw [← reply]
        exact (answered earlier call _ (by rw [divided, List.append_assoc, List.cons_append])).symm
      obtain ⟨rfl, observed, project, read, found, rfl⟩ := Protocol.written_grants reached
      exact ⟨rfl, rfl, ⟨observed, reported read, rfl⟩, project,
        fun name member => ⟨reported (found name member).1, (found name member).2⟩, rfl⟩

/-- This declaration gives two groups a role in one project. -/
def sharingSpec : Spec :=
  ⟨some true, ⟨"secret", none⟩, ["example.com"], none, none, [],
    [⟨"engineers", [⟨"payments", "GROUP_OWNER"⟩]⟩,
      ⟨"auditors", [⟨"payments", "GROUP_READ_ONLY"⟩]⟩]⟩

/-- A remote that reports a project of the organization once and a foreign one from then on. -/
def shiftingRemote : Remote Nat where
  reply
    | .federationSettings _, lookups => (.answered (.ok ⟨"settings", none, none⟩) false, lookups)
    | .connectedOrgConfig _ org, lookups =>
        (.answered (.ok ⟨org, "provider", [], none, [], [], none⟩) false, lookups)
    | .updateConnectedOrgConfig _ _ config, lookups =>
        (.answered (.ok (config.stored none)) false, lookups)
    | .identityProvider _ _, lookups => (.answered (.ok ⟨none, none, none, []⟩) false, lookups)
    | .updateIdentityProvider _ _ settings, lookups => (.answered (.ok settings) false, lookups)
    | .projectByName name, 0 => (.answered (.ok ⟨"own", name, "org"⟩) false, 1)
    | .projectByName name, lookups =>
        (.answered (.ok ⟨"foreign", name, "other"⟩) false, lookups + 1)

/-- Both groups get their role in the project of the organization. -/
theorem grants_stay_inside_shifting :
    let done := Pass.run shiftingRemote sharingSpec "org" (Trace.start 0 false)
    let before : List Call := [.federationSettings "org", .connectedOrgConfig "settings" "org",
      .projectByName "payments", .identityProvider "settings" "provider"]
    let config := sharingSpec.configWith (fun _ => "own") "org" "provider"
    done.2.calls = before ++ [.updateConnectedOrgConfig "settings" "org" config] ∧
      ∃ project : String → Project,
        Protocol.Told (shiftingRemote.answer 0) before (.projectByName "payments")
          (project "payments") ∧
        (project "payments").orgId = "org" := by
  intro done before config
  have made : done.2.calls = before ++ [.updateConnectedOrgConfig "settings" "org" config] := rfl
  obtain ⟨_, _, _, project, found, _⟩ :=
    grants_stay_inside shiftingRemote sharingSpec "org" 0 false made
  exact ⟨made, project, found "payments" (by decide)⟩

end Pass

end OrgFederation

import OrgFederation.Management.InMemory
import OrgFederation.Proofs.Pass.Settling

namespace OrgFederation

variable {σ : Type}

/-- The lookups of names are answered alike whatever names have been looked up before, and none of
them is cancelled. -/
def Remote.Steady (remote : Remote σ) (state : σ) (lookup : String → Except CallError Project) :
    Prop :=
  ∀ (earlier : List String) (name : String),
    (remote.reply (.projectByName name) (remote.follow (Trace.start state false)
      (earlier.map .projectByName)).state).1 = .answered (lookup name) false

/-- Why the lookup of a name gives no id in an organization. -/
inductive LookupError.Explains (orgId : String) (lookup : String → Except CallError Project)
    (name : String) : LookupError → Prop where
  | empty (nothing : name = "") : Explains orgId lookup name .emptyName
  | missing {cause : CallError} (named : name ≠ "") (told : lookup name = .error cause)
      (unknown : cause.isNotFound = true) : Explains orgId lookup name (.notFound name orgId)
  | foreign {project : Project} (named : name ≠ "") (told : lookup name = .ok project)
      (other : project.orgId ≠ orgId) : Explains orgId lookup name (.notFound name orgId)
  | failed {cause : CallError} (named : name ≠ "") (told : lookup name = .error cause)
      (known : cause.isNotFound = false) : Explains orgId lookup name (.api name cause)

section Direct

variable {orgId : String} {lookup : String → Except CallError Project} {name : String}

/-- A name has an id exactly when it is given and its lookup yields a project of the
organization. -/
theorem idByLookup_eq_ok_iff {id : String} : idByLookup orgId lookup name = .ok id ↔
    name ≠ "" ∧ ∃ project, lookup name = .ok project ∧ project.orgId = orgId ∧
      id = project.id := by
  constructor
  · intro found
    have named : name ≠ "" := by simpa using idByLookup_nonempty found
    rw [idByLookup, if_neg (by simpa using named)] at found
    cases told : lookup name with
    | error cause => rw [told] at found; cases found
    | ok project =>
        rw [told] at found
        dsimp only at found
        split at found
        · exact ⟨named, project, rfl, ‹_›, (Except.ok.inj found).symm⟩
        · cases found
  · rintro ⟨named, project, told, owned, rfl⟩
    exact idByLookup_eq_ok named told owned

theorem idByLookup_isOk_iff : (idByLookup orgId lookup name).isOk = true ↔
    name ≠ "" ∧ ∃ project, lookup name = .ok project ∧ project.orgId = orgId := by
  constructor
  · intro succeeded
    cases found : idByLookup orgId lookup name with
    | error source => rw [found] at succeeded; cases succeeded
    | ok id =>
        obtain ⟨named, project, told, owned, -⟩ := idByLookup_eq_ok_iff.mp found
        exact ⟨named, project, told, owned⟩
  · rintro ⟨named, project, told, owned⟩
    rw [idByLookup_eq_ok named told owned]
    rfl

/-- A name has no id for just one reason. -/
theorem explains_of_idByLookup {source : LookupError}
    (failed : idByLookup orgId lookup name = .error source) : source.Explains orgId lookup name := by
  by_cases named : name = ""
  · rw [idByLookup, if_pos (by simpa using named)] at failed
    cases failed
    exact .empty named
  rw [idByLookup, if_neg (by simpa using named)] at failed
  cases told : lookup name with
  | error cause =>
      rw [told] at failed
      cases failed
      cases unknown : cause.isNotFound with
      | true =>
          rw [LookupError.ofApi, if_pos unknown]
          exact .missing named told unknown
      | false =>
          rw [LookupError.ofApi, if_neg (by simp [unknown])]
          exact .failed named told unknown
  | ok project =>
      rw [told] at failed
      dsimp only at failed
      split at failed
      · cases failed
      · cases failed
        exact .foreign named told ‹_›

end Direct

variable {resolve : String → Except LookupError String}

/-- Assignments that all become roles have projects with ids. -/
theorem RoleMapping.exists_id_of_rolesBy {group : String} {list : List RoleAssignment}
    {roles : List OrgRoleAssignment} (found : rolesBy resolve group list = .ok roles) :
    ∀ assignment ∈ list, ∃ id, resolve assignment.projectName = .ok id := by
  intro assignment listed
  obtain ⟨role, one⟩ := exists_of_mapM_eq_ok found assignment listed
  cases direct : resolve assignment.projectName with
  | ok id => exact ⟨id, rfl⟩
  | error source => rw [direct] at one; cases one

/-- Assignments that do not all become roles have a first one without an id. -/
theorem RoleMapping.split_of_rolesBy {group : String} {list : List RoleAssignment}
    {failure : MappingError} (failed : rolesBy resolve group list = .error failure) :
    ∃ before assignment behind, list = before ++ assignment :: behind ∧
      (∀ other ∈ before, ∃ id, resolve other.projectName = .ok id) ∧
      failure.externalGroup = group ∧ failure.project = assignment.projectName ∧
      resolve assignment.projectName = .error failure.source := by
  obtain ⟨before, assignment, behind, split, found, last⟩ := split_of_mapM_eq_error failed
  refine ⟨before, assignment, behind, split, fun other listed => ?_, ?_⟩
  · obtain ⟨role, one⟩ := found other listed
    cases direct : resolve other.projectName with
    | ok id => exact ⟨id, rfl⟩
    | error source => rw [direct] at one; cases one
  · cases direct : resolve assignment.projectName with
    | ok id => rw [direct] at last; cases last
    | error source =>
        rw [direct] at last
        cases last
        exact ⟨rfl, rfl, rfl⟩

/-- The role assignments of a mapping in order, each with its group. -/
def RoleMapping.grouped (mapping : RoleMapping) : List (String × RoleAssignment) :=
  mapping.roleAssignments.map (mapping.externalGroupName, ·)

namespace Spec

/-- The role assignments of a declaration in order, each with its group. -/
def assignments (spec : Spec) : List (String × RoleAssignment) :=
  spec.roleMappings.flatMap RoleMapping.grouped

/-- The project names of a declaration are those of its assignments. -/
theorem projectNames_eq (spec : Spec) :
    spec.projectNames = spec.assignments.map fun entry => entry.2.projectName := by
  rw [projectNames, RoleMapping.projectNames, assignments, List.map_flatMap]
  congr 1
  funext mapping
  rw [RoleMapping.grouped, List.map_map]
  rfl

/-- A declaration that stands for no configuration has a first assignment without an id. -/
theorem split_of_configBy {spec : Spec} {orgId providerId : String} {failure : MappingError}
    (failed : spec.configBy resolve orgId providerId = .error failure) :
    ∃ before assignment behind,
      spec.assignments = before ++ (failure.externalGroup, assignment) :: behind ∧
      assignment.projectName = failure.project ∧
      (∀ other ∈ before, ∃ id, resolve other.2.projectName = .ok id) ∧
      resolve failure.project = .error failure.source := by
  cases mappings : RoleMapping.mappingsBy resolve providerId spec.roleMappings with
  | ok all => rw [configBy, mappings] at failed; cases failed
  | error cause =>
      rw [configBy, mappings] at failed
      cases failed
      obtain ⟨earlier, mapping, later, outer, found, last⟩ := split_of_mapM_eq_error mappings
      cases roles : RoleMapping.rolesBy resolve mapping.externalGroupName
          mapping.roleAssignments with
      | ok list => rw [roles] at last; cases last
      | error cause =>
          rw [roles] at last
          cases last
          obtain ⟨before, assignment, behind, inner, resolved, group, project, source⟩ :=
            RoleMapping.split_of_rolesBy roles
          refine ⟨earlier.flatMap RoleMapping.grouped ++ before.map (mapping.externalGroupName, ·),
            assignment,
            behind.map (mapping.externalGroupName, ·) ++ later.flatMap RoleMapping.grouped,
            ?_, project.symm, ?_, project ▸ source⟩
          · rw [assignments, outer, List.flatMap_append, List.flatMap_cons, RoleMapping.grouped,
              inner, List.map_append, List.map_cons, group, List.append_assoc, List.append_assoc,
              List.cons_append]
          · intro other listed
            rcases List.mem_append.mp listed with among | among
            · obtain ⟨previous, inside, named⟩ := List.mem_flatMap.mp among
              obtain ⟨role, one, rfl⟩ := List.mem_map.mp named
              obtain ⟨converted, done⟩ := found previous inside
              cases all : RoleMapping.rolesBy resolve previous.externalGroupName
                  previous.roleAssignments with
              | error cause => rw [all] at done; cases done
              | ok list => exact RoleMapping.exists_id_of_rolesBy all role one
            · obtain ⟨role, one, rfl⟩ := List.mem_map.mp among
              exact resolved role one

end Spec

/-- Names that all have ids are all asked for. -/
theorem askedNames_all {names : List String}
    (named : ∀ name ∈ names, name.isEmpty = false ∧ (resolve name).isOk = true) :
    askedNames resolve names = names := by
  have asked := askedNames_append named []
  rwa [List.append_nil, askedNames, List.append_nil] at asked

/-- The names that are asked for behind names that have ids are none but the first one without an id,
and that one only if it is given. -/
theorem askedNames_stopped {before behind : List String} {name : String} {source : LookupError}
    (found : ∀ other ∈ before, other.isEmpty = false ∧ ∃ id, resolve other = .ok id)
    (failed : resolve name = .error source) :
    askedNames resolve (before ++ name :: behind).eraseDups =
      before.eraseDups ++ if name.isEmpty then [] else [name] := by
  have fresh : name ∉ before := by
    intro listed
    obtain ⟨-, id, resolved⟩ := found name listed
    rw [failed] at resolved
    cases resolved
  have known : ∀ other ∈ before.eraseDups, other.isEmpty = false ∧
      (resolve other).isOk = true := by
    intro other listed
    obtain ⟨named, id, resolved⟩ := found other (List.mem_eraseDups.mp listed)
    exact ⟨named, by rw [resolved]; rfl⟩
  rw [List.eraseDups_append, List.cons_removeAll, if_pos (by simpa using fresh),
    List.eraseDups_cons, askedNames_append known, askedNames]
  cases name.isEmpty with
  | true => rfl
  | false =>
      rw [failed]
      rfl

section Direct

variable {spec : Spec} {orgId providerId : String} {lookup : String → Except CallError Project}

/-- A configuration that is found copies its declaration, with the ids of the projects that are looked
up. -/
theorem Spec.copied_of_configBy {desired : DesiredOrgConfig}
    (succeeded : spec.configBy (idByLookup orgId lookup) orgId providerId = .ok desired) :
    ∃ idOf, (∀ name ∈ spec.projectNames, ∃ project, lookup name = .ok project ∧
        project.orgId = orgId ∧ idOf name = project.id) ∧
      desired = spec.configWith idOf orgId providerId := by
  have found := Spec.exists_id_of_configBy succeeded
  let idOf (name : String) : String := (idByLookup orgId lookup name).toOption.getD ""
  have resolved : ∀ name ∈ spec.projectNames,
      idByLookup orgId lookup name = .ok (idOf name) := by
    intro name member
    obtain ⟨id, direct⟩ := found name member
    simp [idOf, direct, Except.toOption]
  rw [Spec.configBy_eq_ok resolved] at succeeded
  exact ⟨idOf, fun name member => (idByLookup_eq_ok_iff.mp (resolved name member)).2,
    (Except.ok.inj succeeded).symm⟩

/-- Every name is asked for once when a configuration is found. -/
theorem Spec.askedNames_of_configBy {desired : DesiredOrgConfig}
    (succeeded : spec.configBy (idByLookup orgId lookup) orgId providerId = .ok desired) :
    askedNames (idByLookup orgId lookup) spec.projectNames.eraseDups =
      spec.projectNames.eraseDups := by
  refine askedNames_all fun name listed => ?_
  obtain ⟨id, direct⟩ := Spec.exists_id_of_configBy succeeded name (List.mem_eraseDups.mp listed)
  exact ⟨idByLookup_nonempty direct, by rw [direct]; rfl⟩

/-- No name is asked for behind the first assignment without an id. -/
theorem Spec.askedNames_of_split {before behind : List (String × RoleAssignment)} {group : String}
    {assignment : RoleAssignment} {source : LookupError}
    (split : spec.assignments = before ++ (group, assignment) :: behind)
    (found : ∀ other ∈ before, ∃ id, idByLookup orgId lookup other.2.projectName = .ok id)
    (failed : idByLookup orgId lookup assignment.projectName = .error source) :
    askedNames (idByLookup orgId lookup) spec.projectNames.eraseDups =
      (before.map fun other => other.2.projectName).eraseDups ++
        if assignment.projectName.isEmpty then [] else [assignment.projectName] := by
  rw [Spec.projectNames_eq, split, List.map_append, List.map_cons, askedNames_stopped ?_ failed]
  intro name listed
  obtain ⟨other, inside, rfl⟩ := List.mem_map.mp listed
  obtain ⟨id, resolved⟩ := found other inside
  exact ⟨idByLookup_nonempty resolved, id, resolved⟩

end Direct

section Search

variable {remote : Remote σ} {state : σ} {orgId : String}
  {lookup : String → Except CallError Project}

/-- Steady lookups are made one after the other. -/
theorem Remote.Steady.looksUp (steady : remote.Steady state lookup) (names : List String) :
    remote.LooksUp lookup names fun seen trace =>
      trace = remote.follow (Trace.start state false) (seen.map .projectByName) ∧
        trace.cancelled = false := by
  rintro seen name rest trace - ⟨rfl, active⟩
  have told := steady seen name
  have asked := remote.ask_run (.projectByName name) _ active
  rw [Remote.result, told] at asked
  refine ⟨_, asked, ?_, ?_⟩
  · rw [List.map_append, Remote.follow_append]
    rfl
  · rw [Remote.after, told, active]
    rfl

/-- A run stands behind lookups as it does before them. -/
theorem Storage.Stands.lookedUp {storage : Storage remote} {held : Holdings} {calls : List Call}
    {trace : Trace σ} (stands : storage.Stands state held calls trace) (names : List String) :
    storage.Stands state held (calls ++ names.map .projectByName)
      (remote.follow trace (names.map .projectByName)) := by
  induction names generalizing calls trace with
  | nil => rwa [List.map_nil, List.append_nil]
  | cons name rest ih =>
      obtain ⟨later, asked, further⟩ := stands.read (.projectByName name) rfl
      rw [remote.ask_run _ _ stands.active] at asked
      have moved : remote.after trace (.projectByName name) = later := congrArg Prod.snd asked
      rw [List.map_cons, Remote.follow_cons, moved, List.append_cons]
      exact ih further

/-- The lookups of a remote that stores what it is sent are steady. -/
theorem Storage.steady (storage : Storage remote) (sound : storage.sound state) :
    remote.Steady state (storage.holdings state).project := by
  intro earlier name
  have stands := (Storage.Stands.start sound).lookedUp earlier
  obtain ⟨next, replied, -, -⟩ := storage.reads _ (.projectByName name) _ stands.sound rfl
  rw [replied, stands.holds]

/-- Over steady lookups the search for a configuration gives what its reference does, in which every
assignment looks its project up on its own. It succeeds exactly when every name is given and belongs
to a project of the organization, and then it copies the declaration and looks each name up once. It
fails with the first assignment that has no id, and it looks up nothing behind it. -/
theorem desiredConfig_as_reference (steady : remote.Steady state lookup) (spec : Spec)
    (orgId providerId : String) :
    let done := (desiredConfig remote orgId providerId spec).run (Trace.start state false)
    done.1 = spec.configBy (idByLookup orgId lookup) orgId providerId ∧
    (done.1.isOk = true ↔ ∀ name ∈ spec.projectNames, name ≠ "" ∧
      ∃ project, lookup name = .ok project ∧ project.orgId = orgId) ∧
    (∀ desired, done.1 = .ok desired →
      (∃ idOf, (∀ name ∈ spec.projectNames, ∃ project, lookup name = .ok project ∧
          project.orgId = orgId ∧ idOf name = project.id) ∧
        desired = spec.configWith idOf orgId providerId) ∧
      done.2.calls = spec.projectNames.eraseDups.map .projectByName) ∧
    ∀ failure, done.1 = .error failure → ∃ before assignment behind,
      spec.assignments = before ++ (failure.externalGroup, assignment) :: behind ∧
      assignment.projectName = failure.project ∧
      (∀ other ∈ before, ∃ id, idByLookup orgId lookup other.2.projectName = .ok id) ∧
      failure.source.Explains orgId lookup failure.project ∧
      done.2.calls = ((before.map fun other => other.2.projectName).eraseDups ++
        if failure.project.isEmpty then [] else [failure.project]).map .projectByName := by
  intro done
  obtain ⟨later, ran, reached, -⟩ := desiredConfig_run
    (steady.looksUp spec.projectNames.eraseDups) ⟨rfl, rfl⟩ orgId providerId
  have result : done.1 = spec.configBy (idByLookup orgId lookup) orgId providerId :=
    congrArg Prod.fst ran
  have calls : done.2.calls =
      (askedNames (idByLookup orgId lookup) spec.projectNames.eraseDups).map .projectByName := by
    rw [show done.2 = later from congrArg Prod.snd ran, reached, Remote.follow_calls]
    rfl
  refine ⟨result, ?_, ?_, ?_⟩
  · rw [result, Spec.configBy_isOk, List.all_eq_true]
    simp only [List.mem_eraseDups, idByLookup_isOk_iff]
  · intro desired succeeded
    rw [result] at succeeded
    rw [calls, Spec.askedNames_of_configBy succeeded]
    exact ⟨Spec.copied_of_configBy succeeded, rfl⟩
  · intro failure failed
    rw [result] at failed
    obtain ⟨before, assignment, behind, split, project, found, source⟩ :=
      Spec.split_of_configBy failed
    refine ⟨before, assignment, behind, split, project, found, explains_of_idByLookup source, ?_⟩
    rw [← project] at source ⊢
    rw [calls, Spec.askedNames_of_split split found source]

end Search

/-- This declaration names a known project twice, then one that is not known, and last none. -/
def strayingSpec : Spec :=
  ⟨some true, ⟨"secret", none⟩, [], none, none, [],
    [⟨"engineers", [⟨"payments", "GROUP_OWNER"⟩, ⟨"payments", "GROUP_READ_ONLY"⟩]⟩,
      ⟨"auditors", [⟨"ledger", "GROUP_OWNER"⟩, ⟨"", "GROUP_OWNER"⟩]⟩]⟩

/-- The project that is not known is the last one to be looked up. -/
theorem desiredConfig_as_reference_straying :
    let done := (desiredConfig InMemory.remote "org" "provider" strayingSpec).run
      (Trace.start Pass.unsettledMemory false)
    done.1 = strayingSpec.configBy (idByLookup "org" Pass.unsettledMemory.holdings.project) "org"
      "provider" ∧
    done.1 = .error ⟨"auditors", "ledger", .notFound "ledger" "org"⟩ ∧
    done.2.calls = [.projectByName "payments", .projectByName "ledger"] := by
  have steady := InMemory.storage.steady (⟨rfl, rfl⟩ : Pass.unsettledMemory.Faultless)
  exact ⟨(desiredConfig_as_reference steady strayingSpec "org" "provider").1, rfl, rfl⟩

end OrgFederation

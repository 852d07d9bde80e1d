import OrgFederation.Proofs.Pass.Calls
import OrgFederation.Proofs.Sequence

namespace OrgFederation

variable {σ ε δ α β : Type}

/-- The id of a project that is looked up on its own. -/
def idByLookup (orgId : String) (lookup : String → Except CallError Project) (name : String) :
    Except LookupError String :=
  if name.isEmpty then
    .error .emptyName
  else
    match lookup name with
    | .error cause => .error (.ofApi orgId name cause)
    | .ok project =>
        if project.orgId = orgId then .ok project.id else .error (.notFound name orgId)

/-- A name that has an id is not empty. -/
theorem idByLookup_nonempty {orgId : String} {lookup : String → Except CallError Project}
    {name id : String} (found : idByLookup orgId lookup name = .ok id) : name.isEmpty = false := by
  unfold idByLookup at found
  split at found
  · cases found
  · simpa using ‹¬name.isEmpty = true›

/-- A name has an id when its lookup reports a project of the organization. -/
theorem idByLookup_eq_ok {orgId : String} {lookup : String → Except CallError Project}
    {name : String} {project : Project} (named : name ≠ "") (found : lookup name = .ok project)
    (owned : project.orgId = orgId) : idByLookup orgId lookup name = .ok project.id := by
  have nonempty : name.isEmpty = false := by simpa using named
  simp [idByLookup, nonempty, found, owned]

/-- An empty name is not asked for. -/
theorem projectId_run_empty (remote : Remote σ) (orgId : String) (ids : ProjectIds)
    {name : String} (trace : Trace σ) (empty : name.isEmpty = true) :
    (projectId remote orgId ids name).run trace = (.error .emptyName, trace) := by
  rw [projectId, if_pos empty]
  rfl

/-- A name that has been found is not asked for again. -/
theorem projectId_run_known (remote : Remote σ) (orgId : String) {ids : ProjectIds}
    {name id : String} (trace : Trace σ) (named : name.isEmpty = false)
    (known : ids.find? name = some id) :
    (projectId remote orgId ids name).run trace = (.ok (id, ids), trace) := by
  rw [projectId, if_neg (by simp [named]), known]
  rfl

/-- Any other name is asked for, and its id is kept when it has one. -/
theorem projectId_run_asked {remote : Remote σ} {orgId : String} {ids : ProjectIds}
    {name : String} {trace later : Trace σ} {lookup : String → Except CallError Project}
    (named : name.isEmpty = false) (missing : ids.find? name = none)
    (asked : (remote.ask (.projectByName name)).run trace = (lookup name, later)) :
    (projectId remote orgId ids name).run trace =
      ((idByLookup orgId lookup name).map fun id => (id, ids.keep name id), later) := by
  rw [projectId, if_neg (by simp [named]), missing, idByLookup, if_neg (by simp [named])]
  cases answered : lookup name with
  | error cause =>
      exact Stateful.run_bind_error (PassM.run_failAs_error (answered ▸ asked) _) _
  | ok project =>
      refine (Stateful.run_bind_ok (PassM.run_failAs_ok (answered ▸ asked) _) _).trans ?_
      dsimp only
      by_cases owned : project.orgId = orgId
      · rw [if_pos owned, if_pos owned]
        rfl
      · rw [if_neg owned, if_neg owned]
        rfl

/-- The roles of the assignments of a group. -/
def RoleMapping.rolesBy (resolve : String → Except LookupError String) (externalGroup : String)
    (list : List RoleAssignment) : Except MappingError (List OrgRoleAssignment) :=
  list.mapM fun assignment =>
    match resolve assignment.projectName with
    | .ok id => .ok ⟨some id, none, assignment.role⟩
    | .error source => .error ⟨externalGroup, assignment.projectName, source⟩

/-- The role mappings, each assignment resolved on its own. -/
def RoleMapping.mappingsBy (resolve : String → Except LookupError String) (providerId : String)
    (list : List RoleMapping) : Except MappingError (List OrgRoleMapping) :=
  list.mapM fun mapping => do
    let roles ← rolesBy resolve mapping.externalGroupName mapping.roleAssignments
    return ⟨mapping.externalGroupName, some providerId, roles⟩

/-- The project names of role mappings, as often as they are given. -/
def RoleMapping.projectNames (list : List RoleMapping) : List String :=
  list.flatMap fun mapping => mapping.roleAssignments.map RoleAssignment.projectName

namespace Spec

def projectNames (spec : Spec) : List String :=
  RoleMapping.projectNames spec.roleMappings

/-- The configuration of a declaration, or the first assignment whose project has no id. -/
def configBy (spec : Spec) (resolve : String → Except LookupError String)
    (orgId providerId : String) : Except MappingError DesiredOrgConfig := do
  let mappings ← RoleMapping.mappingsBy resolve providerId spec.roleMappings
  return ⟨orgId, providerId, spec.domainAllowList, spec.domainRestrictionEnabled,
    spec.postAuthRoleGrants, mappings⟩

/-- The configuration of a declaration whose project names all have ids. -/
def configWith (spec : Spec) (idOf : String → String) (orgId providerId : String) :
    DesiredOrgConfig :=
  ⟨orgId, providerId, spec.domainAllowList, spec.domainRestrictionEnabled,
    spec.postAuthRoleGrants, spec.roleMappings.map fun mapping =>
      ⟨mapping.externalGroupName, some providerId, mapping.roleAssignments.map fun assignment =>
        ⟨some (idOf assignment.projectName), none, assignment.role⟩⟩⟩

end Spec

/-- The names that are asked for, in order, when the first name without an id is the last one that
matters. An empty name is not asked for. -/
def askedNames (resolve : String → Except LookupError String) : List String → List String
  | [] => []
  | name :: rest =>
      if name.isEmpty then
        []
      else
        name :: if (resolve name).isOk then askedNames resolve rest else []

/-- Names that have ids are all asked for. -/
theorem askedNames_append {resolve : String → Except LookupError String} {seen : List String}
    (named : ∀ name ∈ seen, name.isEmpty = false ∧ (resolve name).isOk = true)
    (rest : List String) :
    askedNames resolve (seen ++ rest) = seen ++ askedNames resolve rest := by
  induction seen with
  | nil => rfl
  | cons name seen ih =>
      obtain ⟨nonempty, found⟩ := named name List.mem_cons_self
      have later := ih fun other member => named other (List.mem_cons_of_mem _ member)
      simp only [List.cons_append, askedNames, nonempty, found, if_true, if_false,
        Bool.false_eq_true, later]

/-- A remote that answers the lookups of some names, each when the names before it have been asked
for. The runs in between are told apart by the names that they have asked for. -/
def Remote.LooksUp (remote : Remote σ) (lookup : String → Except CallError Project)
    (names : List String) (reached : List String → Trace σ → Prop) : Prop :=
  ∀ seen name rest trace, names = seen ++ name :: rest → reached seen trace →
    ∃ later, (remote.ask (.projectByName name)).run trace = (lookup name, later) ∧
      reached (seen ++ [name]) later

section Lookup

variable {remote : Remote σ} {orgId : String} {lookup : String → Except CallError Project}
  {names : List String} {reached : List String → Trace σ → Prop}

/-- A run of lookups knows the ids of exactly the names that it has asked for, and of all names it
still has to ask for the ones that remain. -/
structure Underway (resolve : String → Except LookupError String) (names : List String)
    (reached : List String → Trace σ → Prop) (remaining : List String) (ids : ProjectIds)
    (trace : Trace σ) (seen : List String) : Prop where
  reached : reached seen trace
  names : names = seen ++ (remaining.removeAll seen).eraseDups
  known : ∀ name ∈ seen, ∃ id, ids.find? name = some id ∧ resolve name = .ok id
  unknown : ∀ name, name ∉ seen → ids.find? name = none

/-- A step of lookups ends as its direct result does: underway, or stopped at the last name that it
asked for. -/
inductive Resolved (resolve : String → Except LookupError String) (names : List String)
    (reached : List String → Trace σ → Prop) (remaining : List String) :
    Except ε α → Except ε (α × ProjectIds) × Trace σ → Prop where
  | found {value : α} {ids : ProjectIds} {later : Trace σ} {seen : List String}
      (underway : Underway resolve names reached remaining ids later seen) :
      Resolved resolve names reached remaining (.ok value) (.ok (value, ids), later)
  | stopped {failure : ε} {later : Trace σ} (last : reached (askedNames resolve names) later) :
      Resolved resolve names reached remaining (.error failure) (.error failure, later)

theorem Resolved.of_ok {resolve : String → Except LookupError String} {remaining : List String}
    {value : α} {run : Except ε (α × ProjectIds) × Trace σ}
    (resolved : Resolved resolve names reached remaining (.ok value) run) :
    ∃ ids later seen, run = (.ok (value, ids), later) ∧
      Underway resolve names reached remaining ids later seen := by
  cases resolved with
  | found underway => exact ⟨_, _, _, rfl, underway⟩

theorem Resolved.of_error {resolve : String → Except LookupError String}
    {remaining : List String} {failure : ε} {run : Except ε (α × ProjectIds) × Trace σ}
    (resolved : Resolved resolve names reached remaining (.error failure) run) :
    ∃ later, run = (.error failure, later) ∧ reached (askedNames resolve names) later := by
  cases resolved with
  | stopped last => exact ⟨_, rfl, last⟩

/-- Lookups go on behind a step that found what it looked for. -/
theorem Resolved.bind {resolve : String → Except LookupError String}
    {middle remaining : List String} {first : Except ε α} {second : α → Except ε β}
    {step : PassM σ ε (α × ProjectIds)}
    {next : α × ProjectIds → PassM σ ε (β × ProjectIds)} {trace : Trace σ}
    (resolved : Resolved resolve names reached middle first (step.run trace))
    (continues : ∀ value ids later seen,
      Underway resolve names reached middle ids later seen →
      Resolved resolve names reached remaining (second value) ((next (value, ids)).run later)) :
    Resolved resolve names reached remaining (first >>= second) ((step >>= next).run trace) := by
  rw [Stateful.run_bind]
  rcases ran : step.run trace with ⟨result, later⟩
  rw [ran] at resolved
  cases resolved with
  | found underway => exact continues _ _ _ _ underway
  | stopped last => exact .stopped last

/-- A step whose failures are renamed ends as its renamed direct result. -/
theorem Resolved.failAs {resolve : String → Except LookupError String} {remaining : List String}
    {first : Except ε α} {step : PassM σ ε (α × ProjectIds)} {trace : Trace σ}
    (resolved : Resolved resolve names reached remaining first (step.run trace))
    (rename : ε → δ) :
    Resolved resolve names reached remaining (first.mapError rename)
      ((step.failAs fun _ => rename).run trace) := by
  rw [PassM.run_failAs]
  rcases ran : step.run trace with ⟨result, later⟩
  rw [ran] at resolved
  cases resolved with
  | found underway => exact .found underway
  | stopped last => exact .stopped last

/-- The names that a run underway has asked for are not empty and have ids. -/
theorem Underway.named {remaining : List String} {ids : ProjectIds} {trace : Trace σ}
    {seen : List String}
    (underway : Underway (idByLookup orgId lookup) names reached remaining ids trace seen) :
    ∀ name ∈ seen, name.isEmpty = false ∧ (idByLookup orgId lookup name).isOk = true := by
  intro name member
  obtain ⟨id, _, resolved⟩ := underway.known name member
  exact ⟨idByLookup_nonempty resolved, by rw [resolved]; rfl⟩

/-- A name that comes next and has not been asked for is the next one to ask for. -/
theorem Underway.next {remaining : List String} {ids : ProjectIds} {trace : Trace σ}
    {seen : List String} {name : String} {resolve : String → Except LookupError String}
    (underway : Underway resolve names reached (name :: remaining) ids trace seen)
    (fresh : name ∉ seen) :
    names = seen ++ name :: (remaining.removeAll (seen ++ [name])).eraseDups := by
  have rest := underway.names
  rw [List.cons_removeAll, if_pos (by simpa using fresh), List.eraseDups_cons] at rest
  have narrowed : (remaining.removeAll seen).filter (fun other => !other == name) =
      remaining.removeAll (seen ++ [name]) := by
    simp only [List.removeAll, List.filter_filter, List.elem_eq_mem, List.mem_append,
      List.mem_singleton]
    congr 1
    funext other
    by_cases same : other = name <;> simp [same]
  rw [rest, narrowed]

/-- A lookup that finds its project adds its name to the names that have been asked for. -/
theorem Underway.keep {remaining : List String} {ids : ProjectIds} {trace later : Trace σ}
    {seen : List String} {name id : String} {resolve : String → Except LookupError String}
    (underway : Underway resolve names reached (name :: remaining) ids trace seen)
    (fresh : name ∉ seen) (resolved : resolve name = .ok id)
    (arrived : reached (seen ++ [name]) later) :
    Underway resolve names reached remaining (ids.keep name id) later (seen ++ [name]) := by
  refine ⟨arrived, ?_, ?_, ?_⟩
  · rw [underway.next fresh, List.append_assoc, List.singleton_append]
  · intro other member
    by_cases same : other = name
    · subst other
      exact ⟨id, by simp [ProjectIds.find?, ProjectIds.keep], resolved⟩
    · obtain ⟨known, found, direct⟩ := underway.known other (by simpa [same] using member)
      have different : (other == name) = false := by simpa using same
      refine ⟨known, ?_, direct⟩
      simpa [ProjectIds.find?, ProjectIds.keep, List.lookup_cons, different] using found
  · intro other absent
    simp only [List.mem_append, List.mem_singleton, not_or] at absent
    have different : (other == name) = false := by simpa using absent.2
    simpa [ProjectIds.find?, ProjectIds.keep, List.lookup_cons, different] using
      underway.unknown other absent.1

/-- A name is resolved as its direct lookup says, from memory or by asking the remote. -/
theorem projectId_resolved (looksUp : remote.LooksUp lookup names reached)
    {remaining : List String} {ids : ProjectIds} {trace : Trace σ} {seen : List String}
    {name : String}
    (underway : Underway (idByLookup orgId lookup) names reached (name :: remaining) ids trace
      seen) :
    Resolved (idByLookup orgId lookup) names reached remaining (idByLookup orgId lookup name)
      ((projectId remote orgId ids name).run trace) := by
  by_cases known : name ∈ seen
  · obtain ⟨id, found, resolved⟩ := underway.known name known
    rw [projectId_run_known remote orgId trace (idByLookup_nonempty resolved) found, resolved]
    refine .found ⟨underway.reached, ?_, underway.known, underway.unknown⟩
    rw [underway.names, List.cons_removeAll, if_neg (by simpa using known)]
  have next := underway.next known
  cases named : name.isEmpty with
  | true =>
      have direct : idByLookup orgId lookup name = .error .emptyName := by
        rw [idByLookup, if_pos named]
      have asked : askedNames (idByLookup orgId lookup) names = seen := by
        rw [next, askedNames_append underway.named, askedNames, if_pos named, List.append_nil]
      rw [projectId_run_empty remote orgId ids trace named, direct]
      exact .stopped (asked ▸ underway.reached)
  | false =>
      obtain ⟨later, answered, arrived⟩ := looksUp seen name _ trace next underway.reached
      rw [projectId_run_asked named (underway.unknown name known) answered]
      cases direct : idByLookup orgId lookup name with
      | ok id => exact .found (underway.keep known direct arrived)
      | error failure =>
          have asked : askedNames (idByLookup orgId lookup) names = seen ++ [name] := by
            rw [next, askedNames_append underway.named, askedNames, if_neg (by simp [named]),
              direct]
            rfl
          exact .stopped (asked ▸ arrived)

/-- The assignments of a group are resolved as if each was looked up on its own. -/
theorem assignments_resolved (looksUp : remote.LooksUp lookup names reached) (group : String)
    (list : List RoleAssignment) {remaining : List String} {ids : ProjectIds} {trace : Trace σ}
    {seen : List String}
    (underway : Underway (idByLookup orgId lookup) names reached
      (list.map RoleAssignment.projectName ++ remaining) ids trace seen) :
    Resolved (idByLookup orgId lookup) names reached remaining
      (RoleMapping.rolesBy (idByLookup orgId lookup) group list)
      ((DesiredConfig.assignments remote orgId group ids list).run trace) := by
  induction list generalizing ids trace seen with
  | nil => exact .found underway
  | cons assignment rest ih =>
      have direct : RoleMapping.rolesBy (idByLookup orgId lookup) group (assignment :: rest) =
          ((idByLookup orgId lookup assignment.projectName).mapError fun source =>
            ⟨group, assignment.projectName, source⟩) >>= fun id =>
          RoleMapping.rolesBy (idByLookup orgId lookup) group rest >>= fun others =>
            .ok (⟨some id, none, assignment.role⟩ :: others) := by
        rw [RoleMapping.rolesBy, List.mapM_cons]
        cases idByLookup orgId lookup assignment.projectName <;> rfl
      rw [direct]
      have first := (projectId_resolved looksUp underway).failAs fun source =>
        (⟨group, assignment.projectName, source⟩ : MappingError)
      refine first.bind fun id known middle asked further => ?_
      exact (ih further).bind fun others ids later seen arrived => .found arrived

/-- Role mappings are resolved as if each of their names was looked up on its own. -/
theorem mappings_resolved (looksUp : remote.LooksUp lookup names reached) (providerId : String)
    (list : List RoleMapping) {ids : ProjectIds} {trace : Trace σ} {seen : List String}
    (underway : Underway (idByLookup orgId lookup) names reached (RoleMapping.projectNames list)
      ids trace seen) :
    Resolved (idByLookup orgId lookup) names reached []
      (RoleMapping.mappingsBy (idByLookup orgId lookup) providerId list)
      ((DesiredConfig.mappings remote orgId providerId ids list).run trace) := by
  induction list generalizing ids trace seen with
  | nil => exact .found underway
  | cons mapping rest ih =>
      have direct : RoleMapping.mappingsBy (idByLookup orgId lookup) providerId (mapping :: rest) =
          RoleMapping.rolesBy (idByLookup orgId lookup) mapping.externalGroupName
            mapping.roleAssignments >>= fun roles =>
          RoleMapping.mappingsBy (idByLookup orgId lookup) providerId rest >>= fun others =>
            .ok (⟨mapping.externalGroupName, some providerId, roles⟩ :: others) := by
        rw [RoleMapping.mappingsBy, List.mapM_cons]
        cases RoleMapping.rolesBy (idByLookup orgId lookup) mapping.externalGroupName
          mapping.roleAssignments <;> rfl
      rw [direct]
      have first := assignments_resolved looksUp mapping.externalGroupName
        mapping.roleAssignments underway
      refine first.bind fun roles known middle asked further => ?_
      exact (ih further).bind fun others ids later seen arrived => .found arrived

/-- A pass finds the configuration, or the failure, that single lookups give. It asks for the
distinct names in order, up to the first that has no id. -/
theorem desiredConfig_run {spec : Spec} {trace : Trace σ}
    (looksUp : remote.LooksUp lookup spec.projectNames.eraseDups reached)
    (start : reached [] trace) (orgId providerId : String) :
    ∃ later, (desiredConfig remote orgId providerId spec).run trace =
        (spec.configBy (idByLookup orgId lookup) orgId providerId, later) ∧
      reached (askedNames (idByLookup orgId lookup) spec.projectNames.eraseDups) later := by
  have underway : Underway (idByLookup orgId lookup) spec.projectNames.eraseDups reached
      (RoleMapping.projectNames spec.roleMappings) [] trace [] :=
    ⟨start, by rw [List.removeAll_nil]; rfl, by simp, fun _ _ => rfl⟩
  have resolved := mappings_resolved looksUp providerId spec.roleMappings underway
  rw [Spec.configBy]
  cases mappings : RoleMapping.mappingsBy (idByLookup orgId lookup) providerId
      spec.roleMappings with
  | error failure =>
      obtain ⟨later, ran, last⟩ := (mappings ▸ resolved).of_error
      exact ⟨later, Stateful.run_bind_error ran _, last⟩
  | ok found =>
      obtain ⟨ids, later, seen, ran, arrived⟩ := (mappings ▸ resolved).of_ok
      have all : spec.projectNames.eraseDups = seen := by
        simpa using arrived.names
      refine ⟨later, Stateful.run_bind_ok ran _, ?_⟩
      have asked := askedNames_append arrived.named []
      rw [List.append_nil, askedNames, List.append_nil] at asked
      rw [all, asked]
      exact arrived.reached

end Lookup

section Direct

variable {resolve : String → Except LookupError String}

/-- A declaration whose names all have ids stands for the configuration with these ids. -/
theorem Spec.configBy_eq_ok {spec : Spec} {idOf : String → String}
    (found : ∀ name ∈ spec.projectNames, resolve name = .ok (idOf name))
    (orgId providerId : String) :
    spec.configBy resolve orgId providerId = .ok (spec.configWith idOf orgId providerId) := by
  have mappings : RoleMapping.mappingsBy resolve providerId spec.roleMappings =
      .ok (spec.configWith idOf orgId providerId).roleMappings := by
    refine mapM_eq_ok fun mapping inside => ?_
    have roles : RoleMapping.rolesBy resolve mapping.externalGroupName mapping.roleAssignments =
        .ok (mapping.roleAssignments.map fun assignment =>
          ⟨some (idOf assignment.projectName), none, assignment.role⟩) := by
      refine mapM_eq_ok fun assignment listed => ?_
      have named : assignment.projectName ∈ spec.projectNames :=
        List.mem_flatMap.mpr ⟨mapping, inside, List.mem_map_of_mem listed⟩
      rw [found _ named]
    rw [roles]
    rfl
  rw [Spec.configBy, mappings]
  rfl

/-- The configuration of a declaration is linked to the given identity provider. -/
theorem Spec.identityProviderId_of_configBy {spec : Spec} {orgId providerId : String}
    {desired : DesiredOrgConfig} (found : spec.configBy resolve orgId providerId = .ok desired) :
    desired.identityProviderId = providerId := by
  cases mappings : RoleMapping.mappingsBy resolve providerId spec.roleMappings with
  | error failure => rw [Spec.configBy, mappings] at found; cases found
  | ok all => rw [Spec.configBy, mappings] at found; cases found; rfl

/-- A declaration that stands for a configuration has an id for each of its names. -/
theorem Spec.exists_id_of_configBy {spec : Spec} {orgId providerId : String}
    {desired : DesiredOrgConfig} (found : spec.configBy resolve orgId providerId = .ok desired) :
    ∀ name ∈ spec.projectNames, ∃ id, resolve name = .ok id := by
  intro name member
  obtain ⟨mapping, inside, named⟩ := List.mem_flatMap.mp member
  obtain ⟨assignment, listed, rfl⟩ := List.mem_map.mp named
  cases mappings : RoleMapping.mappingsBy resolve providerId spec.roleMappings with
  | error failure => rw [Spec.configBy, mappings] at found; cases found
  | ok all =>
      obtain ⟨converted, one⟩ := exists_of_mapM_eq_ok mappings mapping inside
      cases roles : RoleMapping.rolesBy resolve mapping.externalGroupName
          mapping.roleAssignments with
      | error failure => rw [roles] at one; cases one
      | ok list =>
          obtain ⟨role, resolved⟩ := exists_of_mapM_eq_ok roles assignment listed
          cases direct : resolve assignment.projectName with
          | error source => rw [direct] at resolved; cases resolved
          | ok id => exact ⟨id, rfl⟩

/-- A declaration stands for a configuration exactly when its distinct names all have ids. -/
theorem Spec.configBy_isOk (spec : Spec) (resolve : String → Except LookupError String)
    (orgId providerId : String) : (spec.configBy resolve orgId providerId).isOk =
      spec.projectNames.eraseDups.all fun name => (resolve name).isOk := by
  rw [Bool.eq_iff_iff, List.all_eq_true]
  simp only [List.mem_eraseDups]
  constructor
  · intro succeeded name member
    cases found : spec.configBy resolve orgId providerId with
    | error failure => rw [found] at succeeded; cases succeeded
    | ok desired =>
        obtain ⟨id, resolved⟩ := Spec.exists_id_of_configBy found name member
        rw [resolved]
        rfl
  · intro resolved
    let idOf (name : String) : String := (resolve name).toOption.getD ""
    have found : ∀ name ∈ spec.projectNames, resolve name = .ok (idOf name) := by
      intro name member
      have named := resolved name member
      cases direct : resolve name with
      | error failure => rw [direct] at named; cases named
      | ok id => simp [idOf, direct, Except.toOption]
    rw [Spec.configBy_eq_ok found]
    rfl

end Direct

end OrgFederation

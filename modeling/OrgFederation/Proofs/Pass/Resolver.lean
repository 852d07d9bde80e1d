import OrgFederation.Proofs.Pass.Reference

namespace OrgFederation

variable {σ : Type}

/-- What a remote reports about a project in a state. -/
def Remote.lookup (remote : Remote σ) (state : σ) (name : String) : Except CallError Project :=
  remote.result (.projectByName name) state

/-- A resolver within a run, with the ids that it has found so far. -/
structure Resolver (σ : Type) where
  ids : ProjectIds
  trace : Trace σ

/-- A name is resolved, or meanwhile the remote changes or the run is cancelled. -/
inductive ResolverEvent (σ : Type) where
  | resolve (name : String)
  | change (state : σ)
  | cancel

/-- A use of a resolver, which is there before and behind it. -/
structure ResolverUse (σ : Type) where
  name : String
  start : Resolver σ
  result : Except LookupError String
  finish : Resolver σ

namespace Resolver

/-- A resolver that has found nothing yet. -/
def fresh (trace : Trace σ) : Resolver σ :=
  ⟨[], trace⟩

/-- The use of a resolver for a name. A failure leaves the ids as they are. -/
def resolve (remote : Remote σ) (orgId : String) (resolver : Resolver σ) (name : String) :
    ResolverUse σ :=
  match (projectId remote orgId resolver.ids name).run resolver.trace with
  | (.ok (id, ids), trace) => ⟨name, resolver, .ok id, ⟨ids, trace⟩⟩
  | (.error cause, trace) => ⟨name, resolver, .error cause, ⟨resolver.ids, trace⟩⟩

/-- The uses of a resolver in a sequence of events. -/
def uses (remote : Remote σ) (orgId : String) :
    Resolver σ → List (ResolverEvent σ) → List (ResolverUse σ)
  | _, [] => []
  | resolver, .resolve name :: rest =>
      let use := resolver.resolve remote orgId name
      use :: uses remote orgId use.finish rest
  | ⟨ids, trace⟩, .change state :: rest => uses remote orgId ⟨ids, { trace with state }⟩ rest
  | ⟨ids, trace⟩, .cancel :: rest =>
      uses remote orgId ⟨ids, { trace with cancelled := true }⟩ rest

end Resolver

namespace ResolverUse

/-- A use asks the remote and is told a project of the organization with an id. -/
structure Reports (remote : Remote σ) (orgId : String) (use : ResolverUse σ) (id : String) :
    Prop where
  active : use.start.trace.cancelled = false
  made : use.finish.trace.calls = use.start.trace.calls ++ [.projectByName use.name]
  told : ∃ project, remote.lookup use.start.trace.state use.name = .ok project ∧
    project.orgId = orgId ∧ project.id = id

/-- No earlier use has found an id for the name. -/
def Unknown (earlier : List (ResolverUse σ)) (name : String) : Prop :=
  ∀ previous ∈ earlier, previous.name = name → previous.result.isOk = false

/-- What a use behind others gives and does. It starts with the ids that the last one has left, and a
failure leaves them as they are. -/
structure Accords (remote : Remote σ) (orgId : String) (earlier : List (ResolverUse σ))
    (use : ResolverUse σ) : Prop where
  continues : use.start.ids = (earlier.getLast?.map fun previous => previous.finish.ids).getD []
  remembered : ∀ previous ∈ earlier, previous.name = use.name → ∀ id, previous.result = .ok id →
    use.result = .ok id ∧ use.finish = use.start
  unnamed : use.name = "" → use.result = .error .emptyName ∧ use.finish = use.start
  refused : use.name ≠ "" → Unknown earlier use.name → use.start.trace.cancelled = true →
    use.result = .error (.api use.name .cancelled) ∧ use.finish = use.start
  asked : use.name ≠ "" → Unknown earlier use.name → use.start.trace.cancelled = false →
    use.finish.trace.calls = use.start.trace.calls ++ [.projectByName use.name] ∧
      use.result = idByLookup orgId (remote.lookup use.start.trace.state) use.name
  failed : use.result.isOk = false → use.finish.ids = use.start.ids
  reported : ∀ id, use.result = .ok id → ∃ origin ∈ earlier ++ [use], origin.name = use.name ∧
    origin.Reports remote orgId id

/-- The ways in which a use goes. -/
inductive Goes (remote : Remote σ) (orgId : String) : ResolverUse σ → Prop where
  | unnamed {resolver : Resolver σ} : Goes remote orgId ⟨"", resolver, .error .emptyName, resolver⟩
  | known {resolver : Resolver σ} {name id : String} (named : name ≠ "")
      (held : resolver.ids.find? name = some id) :
      Goes remote orgId ⟨name, resolver, .ok id, resolver⟩
  | refused {resolver : Resolver σ} {name : String} (named : name ≠ "")
      (missing : resolver.ids.find? name = none) (cancelled : resolver.trace.cancelled = true) :
      Goes remote orgId ⟨name, resolver, .error (.api name .cancelled), resolver⟩
  | found {resolver : Resolver σ} {name : String} {project : Project} (named : name ≠ "")
      (missing : resolver.ids.find? name = none) (active : resolver.trace.cancelled = false)
      (told : remote.lookup resolver.trace.state name = .ok project)
      (owned : project.orgId = orgId) :
      Goes remote orgId ⟨name, resolver, .ok project.id,
        ⟨resolver.ids.keep name project.id, remote.after resolver.trace (.projectByName name)⟩⟩
  | failed {resolver : Resolver σ} {name : String} {source : LookupError} (named : name ≠ "")
      (missing : resolver.ids.find? name = none) (active : resolver.trace.cancelled = false)
      (direct : idByLookup orgId (remote.lookup resolver.trace.state) name = .error source) :
      Goes remote orgId ⟨name, resolver, .error source,
        ⟨resolver.ids, remote.after resolver.trace (.projectByName name)⟩⟩

end ResolverUse

/-- Every use goes in one of these ways. -/
theorem Resolver.resolve_goes (remote : Remote σ) (orgId : String) (resolver : Resolver σ)
    (name : String) : (resolver.resolve remote orgId name).Goes remote orgId := by
  rw [resolve]
  by_cases nothing : name = ""
  · subst name
    rw [projectId_run_empty remote orgId resolver.ids resolver.trace rfl]
    exact .unnamed
  have named : name.isEmpty = false := by simpa using nothing
  cases held : resolver.ids.find? name with
  | some id =>
      rw [projectId_run_known remote orgId resolver.trace named held]
      exact .known nothing held
  | none =>
      cases active : resolver.trace.cancelled with
      | true =>
          have direct : idByLookup orgId (fun _ => .error .cancelled) name =
              .error (.api name .cancelled) := by
            rw [idByLookup, if_neg (by simp [named])]
            rfl
          have refused := remote.ask_run_cancelled (.projectByName name) _ active
          rw [@projectId_run_asked _ _ _ _ _ _ _ (fun _ => .error .cancelled) named held refused,
            direct]
          exact .refused nothing held active
      | false =>
          have asked : (remote.ask (.projectByName name)).run resolver.trace =
              (remote.lookup resolver.trace.state name,
                remote.after resolver.trace (.projectByName name)) := remote.ask_run _ _ active
          rw [projectId_run_asked named held asked]
          cases direct : idByLookup orgId (remote.lookup resolver.trace.state) name with
          | error source => exact .failed nothing held active direct
          | ok id =>
              obtain ⟨-, project, told, owned, rfl⟩ := idByLookup_eq_ok_iff.mp direct
              exact .found nothing held active told owned

section Remembering

variable {remote : Remote σ} {orgId : String} {earlier : List (ResolverUse σ)}
  {use : ResolverUse σ}

/-- The ids that are held are exactly those that earlier uses have found, each reported once. -/
structure Remembers (remote : Remote σ) (orgId : String) (ids : ProjectIds)
    (earlier : List (ResolverUse σ)) : Prop where
  left : ids = (earlier.getLast?.map fun previous => previous.finish.ids).getD []
  named : ids.find? "" = none
  recorded : ∀ previous ∈ earlier, ∀ id, previous.result = .ok id →
    ids.find? previous.name = some id
  reported : ∀ name id, ids.find? name = some id → ∃ origin ∈ earlier, origin.name = name ∧
    origin.result = .ok id ∧ origin.Reports remote orgId id

/-- Ids under other names are found behind a kept one as before. -/
theorem ProjectIds.find_keep (ids : ProjectIds) (name id other : String) :
    (ids.keep name id).find? other = if other = name then some id else ids.find? other := by
  rw [find?, keep, List.lookup_cons]
  by_cases same : other = name
  · subst other
    simp
  · have apart : (other == name) = false := by simpa using same
    rw [apart, if_neg same]
    rfl

/-- A name whose id is not held is unknown to the earlier uses. -/
theorem Remembers.unknown_iff {ids : ProjectIds} (remembers : Remembers remote orgId ids earlier)
    (name : String) : ResolverUse.Unknown earlier name ↔ ids.find? name = none := by
  constructor
  · intro unknown
    cases held : ids.find? name with
    | none => rfl
    | some id =>
        obtain ⟨origin, listed, same, found, -⟩ := remembers.reported name id held
        have failed := unknown origin listed same
        rw [found] at failed
        cases failed
  · rintro missing previous listed rfl
    cases found : previous.result with
    | error source => rfl
    | ok id =>
        rw [remembers.recorded previous listed id found] at missing
        cases missing

/-- A use keeps to what earlier uses have found. -/
theorem ResolverUse.Goes.accords (goes : use.Goes remote orgId)
    (remembers : Remembers remote orgId use.start.ids earlier) :
    use.Accords remote orgId earlier := by
  have unknown := remembers.unknown_iff use.name
  have held : ∀ previous ∈ earlier, previous.name = use.name → ∀ id, previous.result = .ok id →
      use.start.ids.find? use.name = some id := by
    rintro previous listed same id found
    rw [← same]
    exact remembers.recorded previous listed id found
  have forgotten (missing : use.start.ids.find? use.name = none) :
      ∀ previous ∈ earlier, previous.name = use.name → ∀ id, previous.result = .ok id →
        use.result = .ok id ∧ use.finish = use.start := by
    intro previous listed same id found
    cases missing.symm.trans (held previous listed same id found)
  cases goes with
  | unnamed =>
      exact {
        continues := remembers.left
        remembered := forgotten remembers.named
        unnamed := fun _ => ⟨rfl, rfl⟩
        refused := fun named => absurd rfl named
        asked := fun named => absurd rfl named
        failed := fun _ => rfl
        reported := fun id found => by cases found }
  | @known resolver name id named recalled =>
      have known {P : Prop} (never : Unknown earlier name) : P := by
        cases (unknown.mp never).symm.trans recalled
      exact {
        continues := remembers.left
        remembered := fun previous listed same id found => by
          cases recalled.symm.trans (held previous listed same id found)
          exact ⟨rfl, rfl⟩
        unnamed := fun nothing => absurd nothing named
        refused := fun _ never => known never
        asked := fun _ never => known never
        failed := fun _ => rfl
        reported := fun id found => by
          cases found
          obtain ⟨origin, listed, same, -, reports⟩ := remembers.reported name _ recalled
          exact ⟨origin, List.mem_append_left _ listed, same, reports⟩ }
  | refused named missing cancelled =>
      exact {
        continues := remembers.left
        remembered := forgotten missing
        unnamed := fun nothing => absurd nothing named
        refused := fun _ _ _ => ⟨rfl, rfl⟩
        asked := fun _ _ active => absurd (cancelled.symm.trans active) (by decide)
        failed := fun _ => rfl
        reported := fun id found => by cases found }
  | found named missing active told owned =>
      exact {
        continues := remembers.left
        remembered := forgotten missing
        unnamed := fun nothing => absurd nothing named
        refused := fun _ _ cancelled => absurd (active.symm.trans cancelled) (by decide)
        asked := fun _ _ _ => ⟨rfl, (idByLookup_eq_ok named told owned).symm⟩
        failed := fun failed => by cases failed
        reported := fun id found => by
          cases found
          exact ⟨_, List.mem_append_right _ (List.mem_singleton_self _), rfl, active, rfl, _, told,
            owned, rfl⟩ }
  | failed named missing active direct =>
      exact {
        continues := remembers.left
        remembered := forgotten missing
        unnamed := fun nothing => absurd nothing named
        refused := fun _ _ cancelled => absurd (active.symm.trans cancelled) (by decide)
        asked := fun _ _ _ => ⟨rfl, direct.symm⟩
        failed := fun _ => rfl
        reported := fun id found => by cases found }

/-- A use that finds no new id leaves what is remembered. -/
theorem Remembers.kept (remembers : Remembers remote orgId use.start.ids earlier)
    (same : use.finish.ids = use.start.ids)
    (recalled : ∀ id, use.result = .ok id → use.start.ids.find? use.name = some id) :
    Remembers remote orgId use.finish.ids (earlier ++ [use]) := by
  refine ⟨?_, same ▸ remembers.named, fun previous listed id found => ?_, fun name id held => ?_⟩
  · rw [List.getLast?_concat]
    rfl
  · rw [same]
    rcases List.mem_append.mp listed with before | last
    · exact remembers.recorded previous before id found
    · obtain rfl := List.mem_singleton.mp last
      exact recalled id found
  · rw [same] at held
    obtain ⟨origin, listed, named, found, reports⟩ := remembers.reported name id held
    exact ⟨origin, List.mem_append_left _ listed, named, found, reports⟩

/-- Behind a use the ids are held that it and earlier ones have found. -/
theorem ResolverUse.Goes.remembers (goes : use.Goes remote orgId)
    (remembers : Remembers remote orgId use.start.ids earlier) :
    Remembers remote orgId use.finish.ids (earlier ++ [use]) := by
  cases goes with
  | unnamed => exact remembers.kept rfl fun id found => by cases found
  | known named recalled =>
      refine remembers.kept rfl fun id found => ?_
      cases found
      exact recalled
  | refused named missing cancelled => exact remembers.kept rfl fun id found => by cases found
  | failed named missing active direct => exact remembers.kept rfl fun id found => by cases found
  | found named missing active told owned =>
      refine ⟨?_, ?_, fun previous listed id found => ?_, fun other id held => ?_⟩
      · rw [List.getLast?_concat]
        rfl
      · rw [ProjectIds.find_keep, if_neg (Ne.symm named)]
        exact remembers.named
      · rw [ProjectIds.find_keep]
        rcases List.mem_append.mp listed with before | last
        · have recalled := remembers.recorded previous before id found
          split
          · rename_i same
            rw [same] at recalled
            cases missing.symm.trans recalled
          · exact recalled
        · obtain rfl := List.mem_singleton.mp last
          cases found
          exact if_pos rfl
      · rw [ProjectIds.find_keep] at held
        split at held
        · rename_i same
          subst same
          cases held
          exact ⟨_, List.mem_append_right _ (List.mem_singleton_self _), rfl, rfl, active, rfl, _,
            told, owned, rfl⟩
        · obtain ⟨origin, listed, named, found, reports⟩ := remembers.reported other id held
          exact ⟨origin, List.mem_append_left _ listed, named, found, reports⟩

end Remembering

namespace Resolver

/-- The uses of a resolver that remembers earlier ones accord with them and with one another. -/
theorem uses_accord_of_remembers {remote : Remote σ} {orgId : String} {resolver : Resolver σ}
    {prior : List (ResolverUse σ)} (remembers : Remembers remote orgId resolver.ids prior)
    (events : List (ResolverEvent σ)) : ∀ earlier use later,
      resolver.uses remote orgId events = earlier ++ use :: later →
        use.Accords remote orgId (prior ++ earlier) := by
  induction events generalizing resolver prior with
  | nil =>
      intro earlier use later split
      cases earlier <;> cases split
  | cons event rest ih =>
      cases event with
      | change state => exact ih remembers
      | cancel => exact ih remembers
      | resolve name =>
          have goes := resolver.resolve_goes remote orgId name
          have start : (resolver.resolve remote orgId name).start = resolver := by
            rw [resolve]
            split <;> rfl
          rw [← start] at remembers
          intro earlier use later split
          cases earlier with
          | nil =>
              obtain ⟨rfl, -⟩ := List.cons.inj split
              rw [List.append_nil]
              exact goes.accords remembers
          | cons first earlier =>
              obtain ⟨rfl, behind⟩ := List.cons.inj split
              rw [List.append_cons]
              exact ih (goes.remembers remembers) earlier use later behind

/-- Every use of a resolver accords with the ones before it, whatever happens to the remote and to
the run between them. -/
theorem uses_accord (remote : Remote σ) (orgId : String) (trace : Trace σ)
    (events : List (ResolverEvent σ)) : ∀ earlier use later,
      (fresh trace).uses remote orgId events = earlier ++ use :: later →
        use.Accords remote orgId earlier := by
  have nothing : Remembers remote orgId (fresh trace).ids [] :=
    ⟨rfl, rfl, by simp, fun name id held => by cases held⟩
  exact uses_accord_of_remembers nothing events

/-- A name that was found is found again without a call, although the remote has forgotten it and the
run is cancelled. -/
theorem uses_accord_forgotten :
    let first := (fresh (Trace.start Pass.unsettledMemory false)).resolve InMemory.remote "org"
      "payments"
    let second := first.finish.resolve InMemory.remote "org" "ledger"
    let third := Resolver.resolve InMemory.remote "org"
      ⟨second.finish.ids, ⟨InMemory.blank, true, second.finish.trace.calls⟩⟩ "payments"
    (fresh (Trace.start Pass.unsettledMemory false)).uses InMemory.remote "org"
      [.resolve "payments", .resolve "ledger", .change InMemory.blank, .cancel,
        .resolve "payments"] = [first, second] ++ [third] ∧
    third.Accords InMemory.remote "org" [first, second] ∧
    third.result = .ok "id" ∧
    third.finish.trace.calls = [.projectByName "payments", .projectByName "ledger"] := by
  intro first second third
  have run : (fresh (Trace.start Pass.unsettledMemory false)).uses InMemory.remote "org"
      [.resolve "payments", .resolve "ledger", .change InMemory.blank, .cancel,
        .resolve "payments"] = [first, second] ++ third :: [] := rfl
  exact ⟨run, uses_accord _ _ _ _ _ _ _ run, rfl, rfl⟩

end Resolver

end OrgFederation

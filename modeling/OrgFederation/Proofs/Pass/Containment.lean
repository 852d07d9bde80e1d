import OrgFederation.Proofs.Pass.Failures

namespace OrgFederation

variable {σ β : Type}

namespace Protocol

section Containment

/-- What a pass sees of the state of its remote is kept when only successful calls of a kind change
it and no such call is in the course. -/
theorem course_keeps {remote : Remote σ} {view : σ → β} {changes : Call → Bool}
    (kept : ∀ call state, (changes call = true → (remote.result call state).isOk = false) →
      view (remote.next call state) = view state)
    (start : Trace σ) (orgId : String) (earlier : List Call) {plan : List Step}
    (spared : ∀ call answer, .told call (.ok answer) ∈
      course orgId (remote.attempt start) earlier plan → changes call = false) :
    view (remote.attempted start
        (earlier ++ callsMade orgId (remote.attempt start) earlier plan)).state =
      view (remote.attempted start earlier).state := by
  induction plan generalizing earlier with
  | nil => rw [callsMade, List.append_nil]
  | cons step rest ih =>
      cases step with
      | needs text =>
          rw [callsMade]
          rw [course] at spared
          split
          · rw [List.append_nil]
          · rename_i given
            rw [if_neg given] at spared
            exact ih earlier fun call answer reached =>
              spared call answer (List.mem_cons_of_mem _ reached)
      | asks call =>
          -- The call is refused, or it is made and answered as the pass is told.
          have single : view (remote.attempted start (earlier ++ [call])).state =
              view (remote.attempted start earlier).state := by
            have asked := remote.ask_attempted start earlier call
            cases active : (remote.attempted start earlier).cancelled with
            | true =>
                rw [remote.ask_run_cancelled call _ active] at asked
                rw [← (Prod.mk.inj asked).2]
            | false =>
                rw [remote.ask_run call _ active] at asked
                obtain ⟨told, moved⟩ := Prod.mk.inj asked
                rw [← moved, Remote.after_state]
                refine kept call _ fun changing => ?_
                cases answered : remote.result call (remote.attempted start earlier).state with
                | error cause => rfl
                | ok answer =>
                    rw [course, ← told, answered] at spared
                    rw [spared call answer List.mem_cons_self] at changing
                    cases changing
          rw [callsMade]
          rw [course] at spared
          split
          · exact single
          · rename_i passed
            rw [if_neg passed] at spared
            have further := ih (earlier ++ [call]) fun call answer reached =>
              spared call answer (List.mem_cons_of_mem _ reached)
            rw [List.append_assoc] at further
            exact further.trans single

end Containment

end Protocol

/-- The calls that settle the provider and the configuration of an organization, behind those that
find out what they are to be. -/
def Call.settles : Call → Bool
  | .identityProvider _ _ | .updateIdentityProvider _ _ _ | .updateConnectedOrgConfig _ _ _ => true
  | .federationSettings _ | .connectedOrgConfig _ _ | .projectByName _ => false

/-- The call writes the settings of an identity provider. -/
def Call.writesProvider : Call → Bool
  | .updateIdentityProvider _ _ _ => true
  | _ => false

/-- A call that does not settle anything writes nothing. -/
theorem Call.writes_of_unsettled {call : Call} (unsettled : call.settles = false) :
    call.writesConfig = false ∧ call.writesProvider = false := by
  cases call <;> simp [settles, writesConfig, writesProvider] at unsettled ⊢

namespace Protocol

/-- At an event of the search a pass finds out what it is to settle. -/
def Event.searches : Event → Bool
  | .told call _ => !call.settles
  | .needed _ => true

/-- A pass plans its search first and settles behind it. -/
theorem plan_searches_first (spec : Spec) (orgId : String) (answers : Answers) :
    ∃ first second, plan spec orgId answers = first ++ second ∧
      (∀ call, .asks call ∈ first → call.settles = false) ∧
      ∀ step ∈ second, ∃ call, step = .asks call ∧ call.settles = true := by
  rw [plan, linkedPlan]
  refine ⟨_ :: _ :: _ :: lookups _, _, rfl, ?_, ?_⟩
  · intro call planned
    simp only [List.mem_cons, Step.asks.injEq, reduceCtorEq, false_or] at planned
    rcases planned with rfl | rfl | lookup
    · rfl
    · rfl
    · obtain ⟨name, rfl⟩ := asks_of_lookups lookup
      rfl
  · intro step planned
    rcases List.mem_append.mp planned with about | last
    · rcases steps_of_providerPlan about with rfl | ⟨_, rfl⟩ <;> exact ⟨_, rfl, rfl⟩
    · rw [configPlan] at last
      split at last
      · cases last
      · exact ⟨_, List.mem_singleton.mp last, rfl⟩

/-- A pass that fails in its search settles nothing. -/
theorem unsettled_of_failed_search {spec : Spec} {orgId : String} {answers : Answers}
    {event : Event} (reached : event ∈ course orgId answers [] (plan spec orgId answers))
    (failed : event.fails orgId = true) (searched : event.searches = true) {call : Call}
    {answer : Except CallError call.Answer}
    (told : .told call answer ∈ course orgId answers [] (plan spec orgId answers)) :
    call.settles = false := by
  obtain ⟨first, second, same, search, settling⟩ := plan_searches_first spec orgId answers
  rw [same, course_append] at reached told
  have stopped : passes orgId answers [] first = false := by
    rcases List.mem_append.mp reached with among | later
    · rw [passes_eq_all, List.all_eq_false]
      exact ⟨event, among, by simp [failed]⟩
    · split at later
      · rcases planned_of_mem_course later with ⟨_, _, rfl, planned⟩ | ⟨_, rfl, planned⟩
        · obtain ⟨_, asked, settles⟩ := settling _ planned
          obtain rfl := Step.asks.inj asked
          simp [Event.searches, settles] at searched
        · obtain ⟨_, other, _⟩ := settling _ planned
          cases other
      · cases later
  rw [stopped, if_neg (by simp), List.append_nil] at told
  rcases planned_of_mem_course told with ⟨_, _, same, planned⟩ | ⟨_, same, _⟩
  · cases same
    exact search call planned
  · cases same

end Protocol

namespace InMemory

/-- The memory serves a call, or it does no more than count it and fails. -/
theorem reply_cases (call : Call) (memory : InMemory) :
    (remote.next call memory = memory.counted call.method ∧
        (remote.result call memory).isOk = false) ∨
      (remote.next call memory = ((memory.counted call.method).serve call).2 ∧
        remote.result call memory = ((memory.counted call.method).serve call).1) := by
  have replied : remote.reply call memory = reply call memory := rfl
  rw [Remote.next, Remote.result, replied, reply]
  dsimp only
  split
  · split
    · exact .inl ⟨rfl, rfl⟩
    · split
      · exact .inl ⟨rfl, rfl⟩
      · exact .inr ⟨rfl, rfl⟩
  · exact .inr ⟨rfl, rfl⟩

/-- Only a write that succeeds changes anything: one of the configuration changes that, and one of
the provider changes the provider. -/
theorem kept_of_spared (call : Call) (memory : InMemory) :
    ((call.writesConfig = true → (remote.result call memory).isOk = false) →
      (remote.next call memory).orgConfig = memory.orgConfig) ∧
    ((call.writesProvider = true → (remote.result call memory).isOk = false) →
      (remote.next call memory).provider = memory.provider) := by
  rcases reply_cases call memory with ⟨moved, _⟩ | ⟨moved, told⟩
  · rw [moved]
    exact ⟨fun _ => rfl, fun _ => rfl⟩
  · rw [moved, told]
    cases call with
    | updateConnectedOrgConfig settingsId orgId config =>
        refine ⟨fun spared => (by cases spared rfl), fun _ => ?_⟩
        dsimp only [serve]
        split <;> rfl
    | updateIdentityProvider settingsId providerId settings =>
        refine ⟨fun _ => ?_, fun spared => by cases spared rfl⟩
        dsimp only [serve]
        split <;> rfl
    | projectByName name =>
        dsimp only [serve]
        split <;> exact ⟨fun _ => rfl, fun _ => rfl⟩
    | _ => exact ⟨fun _ => rfl, fun _ => rfl⟩

end InMemory

namespace Pass

/-- How an enabled pass over a memory ends is explained by its course, and a call that is cancelled
makes it an internal failure. A pass that fails without a conflict has kept the configuration, and
one that fails in its search has kept the provider too. -/
theorem failures_explained_and_contained (memory : InMemory) (cancelled : Bool) {spec : Spec}
    (enabled : spec.isEnabled = true) (orgId : String) :
    let start := Trace.start memory cancelled
    let answers := InMemory.remote.attempt start
    let course := Protocol.course orgId answers [] (Protocol.plan spec orgId answers)
    let done := Pass.run InMemory.remote spec orgId start
    (∃ refused, course.filterMap Protocol.Event.call? = done.2.calls ++ refused ∧
      (refused ≠ [] → done.2.cancelled = true)) ∧
    Protocol.Explains orgId course done.1 ∧
    (∀ call, .told call (.error .cancelled) ∈ course → done.1.reason? = some .internal) ∧
    (∀ reason, done.1.reason? = some reason → reason ≠ .federatedAuthUsersConflict →
      done.2.state.orgConfig = memory.orgConfig) ∧
    ((∃ event ∈ course, event.fails orgId = true ∧ event.searches = true) →
      done.2.state.orgConfig = memory.orgConfig ∧ done.2.state.provider = memory.provider) := by
  intro start answers course done
  obtain ⟨behind, refused, reached, ended, _⟩ :=
    Protocol.run_calls InMemory.remote enabled orgId memory cancelled
  obtain ⟨told, _⟩ := Protocol.reason_of_run InMemory.remote start enabled orgId
  have config_kept (spared : ∀ call answer, .told call (.ok answer) ∈ course →
      call.writesConfig = false) : done.2.state.orgConfig = memory.orgConfig := by
    have kept := Protocol.course_keeps (fun call memory => (InMemory.kept_of_spared call memory).1)
      start orgId [] spared
    rw [List.nil_append] at kept
    exact (congrArg (·.state.orgConfig) behind).trans kept
  refine ⟨⟨refused, (Protocol.course_calls _ _).trans reached, ended⟩,
    Protocol.run_explained InMemory.remote start enabled orgId, ?_, ?_, ?_⟩
  · intro call reached
    rw [told, Protocol.reason_of_told reached
      (.inl (by simp [Protocol.Event.reason_of_cancelled]))]
    exact Protocol.Event.reason_of_cancelled orgId call
  · intro reason failed other
    refine config_kept fun call answer reached => ?_
    cases writes : call.writesConfig with
    | false => rfl
    | true =>
        -- A write that succeeds is the last event, so the pass settled or left users in conflict.
        rw [told, Protocol.reason_of_told reached (.inr writes)] at failed
        cases call <;> cases writes
        simp only [Protocol.Event.reason?] at failed
        split at failed
        · cases failed
        · exact absurd (Option.some.inj failed).symm other
  · rintro ⟨event, reached, failed, searches⟩
    have unsettled {call : Call} {answer : Except CallError call.Answer}
        (told : .told call answer ∈ course) : call.settles = false :=
      Protocol.unsettled_of_failed_search reached failed searches told
    constructor
    · exact config_kept fun call answer reached => (Call.writes_of_unsettled (unsettled reached)).1
    · have kept := Protocol.course_keeps (fun call memory => (InMemory.kept_of_spared call memory).2)
        start orgId [] fun call answer reached => (Call.writes_of_unsettled (unsettled reached)).2
      rw [List.nil_append] at kept
      exact (congrArg (·.state.provider) behind).trans kept

/-- A memory of a linked organization that fails the first write of its configuration. -/
def failingMemory : InMemory :=
  { unsettledMemory with
    faults := [⟨"update_connected_org_config", some 1, none, false, false,
      some (.transport "connection reset")⟩] }

/-- A write that fails is an internal failure, and it stores nothing. -/
theorem failures_explained_and_contained_failing :
    let done := Pass.run InMemory.remote grantingSpec "org" (Trace.start failingMemory false)
    grantingSpec.isEnabled = true ∧
      done.1.reason? = some .internal ∧
      done.2.state.orgConfig = failingMemory.orgConfig := by
  have failed : (Pass.run InMemory.remote grantingSpec "org"
      (Trace.start failingMemory false)).1.reason? = some .internal := by decide
  have contained := failures_explained_and_contained failingMemory false
    (rfl : grantingSpec.isEnabled = true) "org"
  exact ⟨rfl, failed, contained.2.2.2.1 .internal failed (by decide)⟩

end Pass

end OrgFederation

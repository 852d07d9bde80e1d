import OrgFederation.Management.InMemory
import OrgFederation.Proofs.Pass.Differences
import OrgFederation.Proofs.Pass.Steps
import OrgFederation.Proofs.Pass.Translation

namespace OrgFederation

variable {σ : Type}

/-- An update changes what the remote holds. -/
def Call.isUpdate : Call → Bool
  | .updateConnectedOrgConfig _ _ _ | .updateIdentityProvider _ _ _ => true
  | _ => false

/-- What a remote holds, by the arguments of the calls that read it. A project may be unknown. -/
structure Holdings where
  settings : String → FederationSettings
  orgConfig : String → String → ConnectedOrgConfig
  provider : String → String → IdentityProviderSettings
  project : String → Except CallError Project

namespace Holdings

/-- The answer to a call that reads. -/
def read? (held : Holdings) : (call : Call) → Option (Except CallError call.Answer)
  | .federationSettings orgId => some (.ok (held.settings orgId))
  | .connectedOrgConfig settingsId orgId => some (.ok (held.orgConfig settingsId orgId))
  | .identityProvider settingsId providerId => some (.ok (held.provider settingsId providerId))
  | .projectByName name => some (held.project name)
  | .updateConnectedOrgConfig _ _ _ | .updateIdentityProvider _ _ _ => none

/-- The configuration that is read for an organization. -/
def configOf (held : Holdings) (orgId : String) : ConnectedOrgConfig :=
  held.orgConfig (held.settings orgId).id orgId

/-- The settings of the identity provider that an organization is linked to. -/
def providerOf (held : Holdings) (orgId : String) : IdentityProviderSettings :=
  held.provider (held.settings orgId).id (held.configOf orgId).identityProviderId

/-- The configuration that a declaration stands for with the projects that are held. -/
def desiredFor (held : Holdings) (spec : Spec) (orgId : String) :
    Except MappingError DesiredOrgConfig :=
  spec.configBy (idByLookup orgId held.project) orgId (held.configOf orgId).identityProviderId

end Holdings

/-- A remote stores what it is sent when, in its sound states, reads are answered with what it
holds, updates succeed and change only what they are about, and nobody cancels. -/
structure Storage (remote : Remote σ) where
  sound : σ → Prop
  holdings : σ → Holdings
  reads : ∀ state call answer, sound state → (holdings state).read? call = some answer →
    ∃ next, remote.reply call state = (.answered answer false, next) ∧ sound next ∧
      holdings next = holdings state
  storesConfig : ∀ state settingsId orgId config, sound state →
    ∃ response next orgConfig conflicts,
      remote.reply (.updateConnectedOrgConfig settingsId orgId config) state =
        (.answered (.ok response) false, next) ∧ sound next ∧
      holdings next = { holdings state with orgConfig } ∧
      orgConfig settingsId orgId = config.stored conflicts
  storesProvider : ∀ state settingsId providerId settings, sound state →
    ∃ response next provider,
      remote.reply (.updateIdentityProvider settingsId providerId settings) state =
        (.answered (.ok response) false, next) ∧ sound next ∧
      holdings next = { holdings state with provider } ∧
      provider settingsId providerId = settings

/-- A run that made some calls from a state on and that nobody has cancelled, over a remote that now
holds something. -/
structure Storage.Stands {remote : Remote σ} (storage : Storage remote) (state : σ)
    (held : Holdings) (calls : List Call) (trace : Trace σ) : Prop where
  behind : trace = remote.follow (Trace.start state false) calls
  active : trace.cancelled = false
  sound : storage.sound trace.state
  holds : storage.holdings trace.state = held

namespace Storage

variable {remote : Remote σ} {storage : Storage remote} {state : σ} {held : Holdings}
  {calls : List Call} {trace : Trace σ}

theorem Stands.start (sound : storage.sound state) :
    storage.Stands state (storage.holdings state) [] (Trace.start state false) :=
  ⟨rfl, rfl, sound, rfl⟩

theorem Stands.made (stands : storage.Stands state held calls trace) : trace.calls = calls := by
  rw [stands.behind, Remote.follow_calls]
  rfl

/-- A call that is answered moves the run on to what the remote then holds. -/
theorem Stands.ask (stands : storage.Stands state held calls trace) {call : Call}
    {answer : Except CallError call.Answer} {next : σ}
    (replied : remote.reply call trace.state = (.answered answer false, next))
    (sound : storage.sound next) :
    (remote.ask call).run trace = (answer, remote.after trace call) ∧
      storage.Stands state (storage.holdings next) (calls ++ [call])
        (remote.after trace call) := by
  have told : remote.result call trace.state = answer := by
    rw [Remote.result, replied]
    rfl
  have moved : (remote.after trace call).state = next := by
    rw [Remote.after_state, Remote.next, replied]
  refine ⟨told ▸ remote.ask_run call trace stands.active, ?_, ?_, ?_, ?_⟩
  · rw [stands.behind, Remote.follow_append]
    rfl
  · simp only [Remote.after, Trace.called, stands.active, replied, Reply.cancels, Bool.or_self]
  · rw [moved]
    exact sound
  · rw [moved]

/-- A call that reads is answered with what is held, which stays. -/
theorem Stands.read (stands : storage.Stands state held calls trace) (call : Call)
    {answer : Except CallError call.Answer} (told : held.read? call = some answer) :
    ∃ later, (remote.ask call).run trace = (answer, later) ∧
      storage.Stands state held (calls ++ [call]) later := by
  obtain ⟨next, replied, sound, same⟩ :=
    storage.reads trace.state call answer stands.sound (stands.holds ▸ told)
  have asked := stands.ask replied sound
  rw [same, stands.holds] at asked
  exact ⟨_, asked⟩

/-- Lookups are answered one by one. -/
theorem looksUp (calls : List Call) (names : List String) :
    remote.LooksUp held.project names fun seen trace =>
      storage.Stands state held (calls ++ seen.map Call.projectByName) trace := by
  intro seen name rest trace _ stands
  obtain ⟨later, asked, further⟩ := stands.read (.projectByName name) rfl
  refine ⟨later, asked, ?_⟩
  simpa only [List.map_append, List.map_cons, List.map_nil, List.append_assoc] using further

/-- A provider that needs no change is only read. -/
theorem settleProvider_kept (stands : storage.Stands state held calls trace) {spec : Spec}
    {settingsId providerId : String}
    (kept : spec.changesProvider (held.provider settingsId providerId) = false) :
    ∃ later, (Convergence.settleProvider remote spec settingsId providerId).run trace =
        (.ok (), later) ∧
      storage.Stands state held (calls ++ [.identityProvider settingsId providerId]) later := by
  obtain ⟨later, read, further⟩ := stands.read (.identityProvider settingsId providerId) rfl
  exact ⟨later, Convergence.settleProvider_run_kept read kept, further⟩

/-- The provider is settled, whether it was before or not. -/
theorem settleProvider_settles (stands : storage.Stands state held calls trace) (spec : Spec)
    (settingsId providerId : String) :
    ∃ provider made later,
      (Convergence.settleProvider remote spec settingsId providerId).run trace =
        (.ok (), later) ∧
      storage.Stands state { held with provider } (calls ++ made) later ∧
      provider settingsId providerId =
        spec.settledProvider (held.provider settingsId providerId) := by
  cases changes : spec.changesProvider (held.provider settingsId providerId) with
  | false =>
      obtain ⟨later, ran, further⟩ := settleProvider_kept stands changes
      exact ⟨held.provider, _, later, ran, further, (Spec.settledProvider_of_kept changes).symm⟩
  | true =>
      obtain ⟨middle, read, reading⟩ := stands.read (.identityProvider settingsId providerId) rfl
      obtain ⟨response, next, provider, replied, sound, holds, stored⟩ :=
        storage.storesProvider middle.state settingsId providerId
          (spec.settledProvider (held.provider settingsId providerId)) reading.sound
      obtain ⟨written, further⟩ := reading.ask replied sound
      rw [holds, reading.holds, List.append_assoc] at further
      exact ⟨provider, _, _, Convergence.settleProvider_run_changed read changes written, further,
        stored⟩

/-- A configuration that differs is stored, and the answer tells whether users are in conflict. -/
theorem settleConfig_stores (stands : storage.Stands state held calls trace)
    (settingsId orgId : String) {desired : DesiredOrgConfig} {observed : ConnectedOrgConfig}
    (differs : differingFields desired observed ≠ []) :
    ∃ (response : ConnectedOrgConfig) (orgConfig : String → String → ConnectedOrgConfig)
      (conflicts : Option (List UserConflict)) (later : Trace σ),
      (Convergence.settleConfig remote settingsId orgId desired observed).run trace =
        (Convergence.reportConflicts response, later) ∧
      storage.Stands state { held with orgConfig }
        (calls ++ [.updateConnectedOrgConfig settingsId orgId desired]) later ∧
      orgConfig settingsId orgId = desired.stored conflicts ∧
      remote.answer state calls (.updateConnectedOrgConfig settingsId orgId desired) =
        .ok response := by
  obtain ⟨response, next, orgConfig, conflicts, replied, sound, holds, stored⟩ :=
    storage.storesConfig trace.state settingsId orgId desired stands.sound
  obtain ⟨written, further⟩ := stands.ask replied sound
  rw [holds, stands.holds] at further
  refine ⟨response, orgConfig, conflicts, _, Convergence.settleConfig_run_written differs written,
    further, stored, ?_⟩
  rw [Remote.answer, ← stands.behind, Remote.result, replied]
  rfl

/-- A pass reads the settings and the configuration of its organization first. -/
theorem Stands.opened (stands : storage.Stands state held calls trace) (orgId : String) :
    ∃ middle later,
      (remote.ask (.federationSettings orgId)).run trace = (.ok (held.settings orgId), middle) ∧
      (remote.ask (.connectedOrgConfig (held.settings orgId).id orgId)).run middle =
        (.ok (held.configOf orgId), later) ∧
      storage.Stands state held (calls ++ [.federationSettings orgId,
        .connectedOrgConfig (held.settings orgId).id orgId]) later := by
  obtain ⟨middle, settings, reading⟩ := stands.read (.federationSettings orgId) rfl
  obtain ⟨later, config, further⟩ :=
    reading.read (.connectedOrgConfig (held.settings orgId).id orgId) rfl
  rw [List.append_assoc] at further
  exact ⟨middle, later, settings, config, further⟩

/-- The search for a configuration finds the one of single lookups, or fails as it does. -/
theorem Stands.searched (stands : storage.Stands state held calls trace) (spec : Spec)
    (orgId providerId : String) :
    ∃ (names : List String) (later : Trace σ),
      (desiredConfig remote orgId providerId spec).run trace =
        (spec.configBy (idByLookup orgId held.project) orgId providerId, later) ∧
      storage.Stands state held (calls ++ names.map Call.projectByName) later := by
  obtain ⟨later, found, further⟩ := desiredConfig_run (looksUp calls _)
    (by simpa using stands) orgId providerId
  exact ⟨_, later, found, further⟩

end Storage

namespace InMemory

/-- A memory that answers every call and stores every update. -/
structure Faultless (memory : InMemory) : Prop where
  faults : memory.faults = []
  writes : memory.ignoresWrites = false

/-- A memory holds one thing of each kind, except projects. -/
def holdings (memory : InMemory) : Holdings where
  settings _ := memory.settings
  orgConfig _ _ := memory.orgConfig
  provider _ _ := memory.provider
  project name :=
    match memory.projects.lookup name with
    | some project => .ok project
    | none => .error (unknownProject name)

/-- Without faults the memory serves every call. -/
theorem reply_of_faultless {memory : InMemory} (faultless : memory.Faultless) (call : Call) :
    remote.reply call memory =
      (.answered ((memory.counted call.method).serve call).1 false,
        ((memory.counted call.method).serve call).2) := by
  have none : (memory.counted call.method).faults = [] := faultless.faults
  change reply call memory = _
  simp only [reply, none, List.find?_nil]

/-- A call that reads is served with what the memory holds and leaves it as it is. -/
theorem serve_of_read (memory : InMemory) {call : Call} {answer : Except CallError call.Answer}
    (told : memory.holdings.read? call = some answer) : memory.serve call = (answer, memory) := by
  cases call with
  | updateConnectedOrgConfig settingsId orgId config => cases told
  | updateIdentityProvider settingsId providerId settings => cases told
  | projectByName name =>
      obtain rfl := Option.some.inj told
      simp only [serve, holdings]
      cases memory.projects.lookup name <;> rfl
  | _ => obtain rfl := Option.some.inj told; rfl

/-- A memory without faults stores what it is sent. -/
def storage : Storage remote where
  sound := Faultless
  holdings := holdings
  reads memory call answer faultless told := by
    have served := serve_of_read (memory.counted call.method) told
    refine ⟨memory.counted call.method, ?_, ⟨faultless.faults, faultless.writes⟩, rfl⟩
    rw [reply_of_faultless faultless, served]
  storesConfig memory settingsId orgId config faultless := by
    have replied :=
      reply_of_faultless faultless (.updateConnectedOrgConfig settingsId orgId config)
    have writes : (memory.counted "update_connected_org_config").ignoresWrites = false :=
      faultless.writes
    simp only [serve, Call.method, writes] at replied
    exact ⟨_, _, fun _ _ => config.stored none, none, replied, ⟨faultless.faults, rfl⟩, rfl,
      rfl⟩
  storesProvider memory settingsId providerId settings faultless := by
    have replied :=
      reply_of_faultless faultless (.updateIdentityProvider settingsId providerId settings)
    have writes : (memory.counted "update_identity_provider").ignoresWrites = false :=
      faultless.writes
    simp only [serve, Call.method, writes] at replied
    exact ⟨_, _, fun _ _ => settings, replied, ⟨faultless.faults, rfl⟩, rfl, rfl⟩

end InMemory

end OrgFederation

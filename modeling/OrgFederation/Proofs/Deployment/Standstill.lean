import OrgFederation.Deployment
import OrgFederation.Proofs.Account.Cache
import OrgFederation.Proofs.Reconciliation.Quiescence

namespace OrgFederation

variable {ω : Type}

/-- A deployment beside a memory that stands for every organization. -/
structure Staging (ω : Type) where
  deployment : Deployment ω
  memory : InMemory

namespace Staging

/-- The memory replies to the calls of a pass. -/
def remote : Remote (Staging ω) where
  reply call staging :=
    let (reply, memory) := InMemory.remote.reply call staging.memory
    (reply, { staging with memory })

/-- The secret of a resource leads to its organization. -/
def connect (network : Http.Network ω) (resource : FederatedAuth) (staging : Staging ω) :
    Connecting (Staging ω) × Staging ω :=
  let (client, deployment) := Deployment.client network resource staging.deployment
  (⟨client.map fun client => ⟨client.credentials.orgId, remote⟩, false⟩,
    { staging with deployment })

def surroundings (network : Http.Network ω) : Surroundings (Staging ω) where
  connect := connect network
  patchStatus _ staging := (.ok (), staging)

/-- The memory stores what it is sent, whatever is asked of the deployment beside it. -/
def storage (beside : Deployment ω → Prop) : Storage (remote : Remote (Staging ω)) where
  sound staging := staging.memory.Faultless ∧ beside staging.deployment
  holdings staging := staging.memory.holdings
  reads staging call answer sound told := by
    obtain ⟨next, replied, faultless, same⟩ :=
      InMemory.storage.reads staging.memory call answer sound.1 told
    exact ⟨{ staging with memory := next }, by simp only [remote, replied], ⟨faultless, sound.2⟩,
      same⟩
  storesConfig staging settingsId orgId config sound := by
    obtain ⟨response, next, orgConfig, conflicts, replied, faultless, holds, stored⟩ :=
      InMemory.storage.storesConfig staging.memory settingsId orgId config sound.1
    exact ⟨response, { staging with memory := next }, orgConfig, conflicts,
      by simp only [remote, replied], ⟨faultless, sound.2⟩, holds, stored⟩
  storesProvider staging settingsId providerId settings sound := by
    obtain ⟨response, next, provider, replied, faultless, holds, stored⟩ :=
      InMemory.storage.storesProvider staging.memory settingsId providerId settings sound.1
    exact ⟨response, { staging with memory := next }, provider, by simp only [remote, replied],
      ⟨faultless, sound.2⟩, holds, stored⟩

end Staging

section Connecting

variable {network : Http.Network ω} {opened : Except String Unit}

/-- Reading a secret does not change it. -/
theorem Cluster.readSecret_again (cluster : Cluster) (namespaceName name : String) :
    ((cluster.readSecret namespaceName name).2.readSecret namespaceName name).1 =
      (cluster.readSecret namespaceName name).1 := by
  by_cases unnamed : name.isEmpty = true
  · simp only [readSecret, if_pos unnamed]
  · simp only [readSecret, if_neg unnamed]
    rfl

/-- The organization of a client that was obtained. -/
abbrev ClientCache.orgOf (found : Except OperatorError Client) : Except OperatorError String :=
  found.map fun client => client.credentials.orgId

/-- As long as connection pools open alike, the state of the network does not matter. -/
theorem ClientCache.obtain_anywhere (opens : ∀ state, (network.openPool state).1 = opened)
    (asked : Credentials) (cache : ClientCache) (state later : ω) :
    orgOf (cache.obtain network asked state).1 = orgOf (cache.obtain network asked later).1 := by
  have makes (state : ω) : orgOf (cache.make network asked state).1 =
      (opened.mapError ClientCache.poolError).map fun _ => asked.orgId := by
    rw [← opens state, make]
    rcases network.openPool state with ⟨result, next⟩
    cases result <;> rfl
  rw [obtain, obtain]
  cases cache.find? asked.account with
  | none => rw [makes, makes]
  | some client =>
      dsimp only
      split
      · rfl
      · rw [makes, makes]

/-- Obtaining a client for the same credentials again leads to the same organization. -/
theorem ClientCache.obtain_again (opens : ∀ state, (network.openPool state).1 = opened)
    (asked : Credentials) (cache : ClientCache) (state later : ω) :
    orgOf ((cache.obtain network asked state).2.1.obtain network asked later).1 =
      orgOf (cache.obtain network asked state).1 := by
  rcases ClientCache.obtain_cases network asked cache state with
    ⟨error, _, kept⟩ | ⟨client, found, obtained⟩
  · rw [kept]
    exact obtain_anywhere opens asked cache later state
  · have uses : client.uses asked = true := by simp [Client.uses, obtained.credentials]
    rw [found, obtain, obtained.cached]
    dsimp only
    rw [if_pos uses]

/-- Connecting again leads to the same organization, or fails as before. -/
theorem Deployment.client_again (opens : ∀ state, (network.openPool state).1 = opened)
    (resource : FederatedAuth) (deployment : Deployment ω) :
    ClientCache.orgOf (client network resource (client network resource deployment).2).1 =
      ClientCache.orgOf (client network resource deployment).1 := by
  by_cases unnamed : resource.spec.connectionSecretRef.name.isEmpty = true
  · simp only [client, if_pos unnamed]
  · have again := deployment.cluster.readSecret_again
      (resource.spec.connectionSecretRef.namespaceWithin
        (resource.metadata.namespaceName.getD "")) resource.spec.connectionSecretRef.name
    rcases first : deployment.cluster.readSecret (resource.spec.connectionSecretRef.namespaceWithin
      (resource.metadata.namespaceName.getD "")) resource.spec.connectionSecretRef.name
      with ⟨read, cluster⟩
    rcases second : cluster.readSecret (resource.spec.connectionSecretRef.namespaceWithin
      (resource.metadata.namespaceName.getD "")) resource.spec.connectionSecretRef.name
      with ⟨same, later⟩
    rw [first, second] at again
    obtain rfl : same = read := again
    match same with
    | .error cause => simp only [client, if_neg unnamed, first, second]
    | .ok none => simp only [client, if_neg unnamed, first, second]
    | .ok (some data) =>
        cases given : Credentials.ofSecret data with
        | error problem => simp only [client, if_neg unnamed, first, second, given]
        | ok credentials =>
            simp only [client, if_neg unnamed, first, second, given]
            exact ClientCache.obtain_again opens credentials deployment.cache deployment.network _

end Connecting

namespace Staging

variable {network : Http.Network ω} {opened : Except String Unit}

/-- Connecting for a resource leads to this organization, or fails so. -/
def LeadsTo (network : Http.Network ω) (metadata : Metadata) (spec : Spec)
    (organization : Except OperatorError String) (deployment : Deployment ω) : Prop :=
  ClientCache.orgOf (Deployment.client network ⟨metadata, spec, none⟩ deployment).1 = organization

/-- A staging is calm as long as connection pools open alike. -/
theorem calm (opens : ∀ state, (network.openPool state).1 = opened) (metadata : Metadata)
    (spec : Spec) (organization : Except OperatorError String) :
    (surroundings network).Calm (storage (LeadsTo network metadata spec organization)) metadata spec
      organization := by
  refine ⟨fun status staging sound => ?_, fun patch staging sound => ⟨staging, rfl, sound, rfl⟩⟩
  obtain ⟨faultless, leads⟩ := sound
  -- Connecting does not look at the status.
  have unread : Deployment.client network ⟨metadata, spec, status⟩ staging.deployment =
      Deployment.client network ⟨metadata, spec, none⟩ staging.deployment := rfl
  refine ⟨{ staging with deployment :=
    (Deployment.client network ⟨metadata, spec, none⟩ staging.deployment).2 }, ?_,
    ⟨faultless, (Deployment.client_again opens _ _).trans leads⟩, rfl⟩
  rw [← leads]
  simp only [surroundings, connect, unread]
  cases (Deployment.client network ⟨metadata, spec, none⟩ staging.deployment).1 <;> rfl

/-- Reconciliations of a resource that nobody else touches come to a standstill, whatever its
declaration, its status and its secret are: only the first one updates the remote, only the first two
write the status, and each one behind them ends as the one before it. -/
theorem standstill (opens : ∀ state, (network.openPool state).1 = opened) (intervals : Intervals)
    (clock : Nat → Timestamp) (resource : FederatedAuth) (staging : Staging ω)
    (faultless : staging.memory.Faultless) :
    let done := Reconciliation.inTurn (surroundings network) intervals clock resource staging
    (∀ number, 1 ≤ number → ∀ call ∈ (done number).calls, call.isUpdate = false) ∧
      (∀ number, 2 ≤ number → (done number).patch = none) ∧
      ∀ number, 2 ≤ number → (done number).result = (done (number - 1)).result := by
  intro done
  have leads : LeadsTo network resource.metadata resource.spec _ staging.deployment := rfl
  obtain ⟨held, ended, rested⟩ := (calm opens resource.metadata resource.spec _).inTurn_rested
    intervals clock resource.status ⟨faultless, leads⟩
  refine ⟨fun number later => ?_, fun number later => ?_, fun number later => ?_⟩
  · obtain ⟨number, rfl⟩ := Nat.exists_eq_add_of_le' later
    exact (rested number).1.reads
  · obtain ⟨number, rfl⟩ := Nat.exists_eq_add_of_le' later
    exact (rested number).2
  · obtain ⟨number, rfl⟩ := Nat.exists_eq_add_of_le' later
    exact (rested (number + 1)).1.result.trans (rested number).1.result.symm

/-- The secret leads to an organization that knows the project of the declaration and reports a user
in conflict. -/
def conflicting : Staging Http.Script where
  deployment := ⟨⟨[(("team", "secret"), .kept (.object
    [("orgId", .string "b3Jn"), ("clientId", .string "aWQ="),
      ("clientSecret", .string "bmV3")]))], [], []⟩, .empty, ⟨false, [], [], ⟨0⟩⟩⟩
  memory := Pass.unsettledMemory

/-- The first reconciliation reports the conflict and waits, the second one has nothing to report,
and the third one is the same again. -/
theorem standstill_conflicting :
    let resource : FederatedAuth :=
      ⟨⟨some "federation", none, some "team", some 1, []⟩, Pass.grantingSpec, none⟩
    let done := Reconciliation.inTurn (surroundings Http.Script.network) .standard
      (fun number => .ofSecond number) resource conflicting
    ((done 0).result.toOption = some .awaitChange ∧ (done 0).patch.isSome ∧
        (done 0).calls.any Call.isUpdate) ∧
      ((done 1).result.toOption = some (.requeue 300) ∧ (done 1).patch.isSome ∧
        ∀ call ∈ (done 1).calls, call.isUpdate = false) ∧
      (done 2).result.toOption = some (.requeue 300) ∧ (done 2).patch = none := by
  intro resource done
  have opens : ∀ state, (Http.Script.network.openPool state).1 = .ok () := fun _ => rfl
  have still := standstill opens .standard (fun number => .ofSecond number) resource conflicting ⟨rfl, rfl⟩
  have first : (done 0).result.toOption = some .awaitChange ∧ (done 0).patch.isSome ∧
      (done 0).calls.any Call.isUpdate := by decide +kernel
  have second : (done 1).result.toOption = some (.requeue 300) ∧ (done 1).patch.isSome := by
    decide +kernel
  exact ⟨first, ⟨second.1, second.2, still.1 1 (by decide)⟩,
    (congrArg Except.toOption (still.2.2 2 (by decide))).trans second.1,
    still.2.1 2 (by decide)⟩

end Staging

end OrgFederation

import OrgFederation.Proofs.Account.Secrecy
import OrgFederation.Proofs.Deployment.Provenance
import OrgFederation.Proofs.Reconciliation.Simulation

namespace OrgFederation

variable {ω τ : Type}

namespace Deployment

/-- Deployments in the same state, but for the client secrets in the second one, which are in a
disguise. -/
structure Disguised (disguise : String → String) (alike : ω → τ → Prop) (first : Deployment ω)
    (second : Deployment τ) : Prop where
  cluster : first.cluster.Disguised disguise second.cluster
  cache : first.cache.Disguised disguise second.cache
  network : alike first.network second.network

section Simulation

variable {disguise : String → String} {alike : ω → τ → Prop} {network : Http.Network ω}
  {other : Http.Network τ} (networks : network.Alike alike other)
include networks

/-- Clients reply alike, and what they learn is kept alike. -/
theorem remote_alike (base : Url) {client rival : Client}
    (hidden : client.Disguised disguise rival) :
    (remote network base client).Alike (Disguised disguise alike) (remote other base rival) := by
  intro call state beside states
  have held := states.cache.clients client.credentials.account
  have current : ((state.cache.find? client.credentials.account).getD client).Disguised disguise
      ((beside.cache.find? rival.credentials.account).getD rival) := by
    rw [hidden.credentials, Credentials.disguised_account]
    generalize state.cache.find? client.credentials.account = found,
      beside.cache.find? client.credentials.account = same at held ⊢
    cases held with
    | none => exact hidden
    | some hidden => exact hidden
  have works : ClientWork.Disguised disguise alike ⟨_, state.network⟩ ⟨_, beside.network⟩ :=
    ⟨current, states.network⟩
  obtain ⟨told, ended⟩ := Client.reply_alike networks base call works
  exact ⟨told, states.cluster, states.cache.put ended.client, ended.network⟩

variable (apart : TellsApart disguise)
include apart

/-- A secret leads to clients that differ in a disguise, or to the same error. -/
theorem client_disguised (resource : FederatedAuth) {state : Deployment ω} {beside : Deployment τ}
    (states : state.Disguised disguise alike beside) :
    ClientCache.FoundDisguised disguise (client network resource state).1
        (client other resource beside).1 ∧
      (client network resource state).2.Disguised disguise alike
        (client other resource beside).2 := by
  unfold client
  dsimp only
  split
  · exact ⟨.failed _, states⟩
  · obtain ⟨reads, clusters⟩ := states.cluster.readSecret
      (resource.spec.connectionSecretRef.namespaceWithin
        (resource.metadata.namespaceName.getD "")) resource.spec.connectionSecretRef.name
    generalize state.cluster.readSecret _ _ = read, beside.cluster.readSecret _ _ = same
      at reads clusters ⊢
    rcases read with ⟨read, cluster⟩
    rcases same with ⟨same, rivalCluster⟩
    dsimp only at reads clusters ⊢
    cases reads with
    | failed cause => exact ⟨.failed _, clusters, states.cache, states.network⟩
    | absent => exact ⟨.failed _, clusters, states.cache, states.network⟩
    | @found data rivalData hidden =>
        dsimp only
        rw [Credentials.ofSecret_disguised hidden]
        cases given : Credentials.ofSecret data with
        | error problem => exact ⟨.failed _, clusters, states.cache, states.network⟩
        | ok credentials =>
            obtain ⟨found, caches, networksBehind⟩ := ClientCache.obtain_disguised networks
              (Credentials.clean_of_ofSecret given) apart states.cache states.network
            exact ⟨found, clusters, caches, networksBehind⟩

/-- A deployment connects and patches alike. -/
theorem surroundings_alike (base : Url) :
    (surroundings network base).Alike (Disguised disguise alike) (surroundings other base) where
  connect resource state beside states := by
    obtain ⟨found, behind⟩ := client_disguised networks apart resource states
    refine ⟨?_, behind⟩
    show Connecting.Alike _ (connect network base resource state).1
      (connect other base resource beside).1
    unfold connect
    dsimp only
    generalize (client network resource state).1 = first,
      (client other resource beside).1 = second at found ⊢
    cases found with
    | failed error => exact .failed _ _
    | @found client rival hidden =>
        have orgId : rival.credentials.orgId = client.credentials.orgId := by
          rw [hidden.credentials, Credentials.disguised_orgId]
        dsimp only [Except.map]
        rw [orgId]
        exact .connected _ _ (remote_alike networks base hidden)
  patchStatus patch state beside states := by
    obtain ⟨told, ended⟩ := states.cluster.patchStatus patch
    exact ⟨told, ended, states.cache, states.network⟩

end Simulation

/-- What is seen of a reconciliation: how it ends, its status patch, what the cluster was asked for
by then, and its requests, with the credentials as they are described. -/
structure Observation where
  result : Except OperatorError Action
  patch : Option StatusPatch
  clusterRequests : List ClusterRequest
  requests : List Http.Request
  credentials : Option String

/-- A reconciliation as it is seen, and the deployment behind it. Nothing is seen of what token
requests authorize themselves with. -/
def observe (network : Http.Network ω) (base : Url) (turn : Turn) (deployment : Deployment ω) :
    Observation × Deployment ω :=
  let start := found turn deployment
  let done := reconcile (surroundings network.recorded base) turn.intervals turn.now turn.resource
    turn.cancelled start
  (⟨done.result, done.patch, done.state.cluster.requests,
      done.state.network.2.map fun exchange => exchange.request.redacted,
      (start.cluster.credentialsFor turn.resource).map Credentials.description⟩,
    ⟨done.state.cluster, done.state.cache, done.state.network.1⟩)

/-- Reconciliations as they are seen, one after the other. -/
def observations (network : Http.Network ω) (base : Url) :
    List Turn → Deployment ω → List Observation
  | [], _ => []
  | turn :: rest, deployment =>
      let (observation, later) := observe network base turn deployment
      observation :: observations network base rest later

/-- The same turn, which the second time finds the client secrets in a disguise. -/
structure Turn.Disguised (disguise : String → String) (first second : Turn) : Prop where
  edits : ∀ cluster other, cluster.Disguised disguise other →
    (first.edit cluster).Disguised disguise (second.edit other)
  resource : second.resource = first.resource
  intervals : second.intervals = first.intervals
  now : second.now = first.now
  cancelled : second.cancelled = first.cancelled

section Observing

variable {disguise : String → String} {alike : ω → τ → Prop} {network : Http.Network ω}
  {other : Http.Network τ}

/-- The credentials for a resource are in a disguise where its secret is. -/
theorem credentialsFor_disguised {cluster rival : Cluster}
    (hidden : cluster.Disguised disguise rival) (resource : FederatedAuth) :
    rival.credentialsFor resource =
      (cluster.credentialsFor resource).map (Credentials.disguised disguise) := by
  have reads := (hidden.readSecret (resource.spec.connectionSecretRef.namespaceWithin
    (resource.metadata.namespaceName.getD "")) resource.spec.connectionSecretRef.name).1
  unfold Cluster.credentialsFor
  dsimp only
  generalize (cluster.readSecret _ _).1 = read, (rival.readSecret _ _).1 = same at reads ⊢
  cases reads with
  | failed cause => rfl
  | absent => rfl
  | @found data rivalData hidden =>
      dsimp only
      rw [Credentials.ofSecret_disguised hidden]
      cases Credentials.ofSecret data <;> rfl

variable (networks : network.Alike alike other) (apart : TellsApart disguise)
include networks apart

/-- A reconciliation is seen in the same way with the secrets in a disguise. -/
theorem observe_disguised (base : Url) {turn rival : Turn} (turns : turn.Disguised disguise rival)
    {state : Deployment ω} {beside : Deployment τ}
    (states : state.Disguised disguise alike beside) :
    (observe network base turn state).1 = (observe other base rival beside).1 ∧
      (observe network base turn state).2.Disguised disguise alike
        (observe other base rival beside).2 := by
  have clusters := turns.edits _ _ states.cluster
  have start : (found turn state).Disguised disguise (Http.NotedAlike alike)
      (found rival beside) := ⟨clusters, states.cache, states.network, rfl⟩
  have done := reconcile_alike (surroundings_alike networks.recorded apart base) turn.intervals
    turn.now turn.resource turn.cancelled start
  have credentials : ((found rival beside).cluster.credentialsFor turn.resource).map
      Credentials.description = ((found turn state).cluster.credentialsFor turn.resource).map
        Credentials.description := by
    have described : Credentials.description ∘ Credentials.disguised disguise =
        Credentials.description := funext (Credentials.disguised_description disguise)
    rw [credentialsFor_disguised start.cluster, Option.map_map, described]
  unfold observe
  dsimp only
  rw [turns.resource, turns.intervals, turns.now, turns.cancelled, done.result, done.patch,
    done.states.network.2, done.states.cluster.requests, credentials]
  exact ⟨rfl, done.states.cluster, done.states.cache, done.states.network.1⟩

/-- Reconciliations are seen in the same way with the secrets in a disguise. -/
theorem observations_disguised (base : Url) {turns rivals : List Turn}
    (same : List.Forall₂ (Turn.Disguised disguise) turns rivals) {state : Deployment ω}
    {beside : Deployment τ} (states : state.Disguised disguise alike beside) :
    observations network base turns state = observations other base rivals beside := by
  induction same generalizing state beside with
  | nil => rfl
  | cons first _ ih =>
      obtain ⟨seen, behind⟩ := observe_disguised networks apart base first states
      rw [observations, observations]
      dsimp only
      rw [seen, ih behind]

end Observing

/-- In every run of reconciliations, whatever happens to the cluster in between, on any network that
does not look at what token requests authorize themselves with: with every client secret in a
disguise, and no two of them in the same one, the same is seen. -/
theorem client_secrets_stay_hidden {alike : ω → τ → Prop} {network : Http.Network ω}
    {other : Http.Network τ} (networks : network.Alike alike other) {disguise : String → String}
    (apart : TellsApart disguise) (base : Url) {turns rivals : List Turn}
    (same : List.Forall₂ (Turn.Disguised disguise) turns rivals) {cluster rival : Cluster}
    (clusters : cluster.Disguised disguise rival) {state : ω} {beside : τ}
    (states : alike state beside) :
    observations network base turns ⟨cluster, .empty, state⟩ =
      observations other base rivals ⟨rival, .empty, beside⟩ :=
  observations_disguised networks apart base same ⟨clusters, .empty, states⟩

/-- Scripted servers with the same answers to come. -/
structure ScriptsAlike (first second : Http.Script) : Prop where
  reachable : second.reachable = first.reachable
  answers : second.answers = first.answers
  clock : second.clock = first.clock

/-- A scripted server does not look at requests. -/
theorem script_alike : Http.Script.network.Alike ScriptsAlike Http.Script.network where
  openPool _ _ states := ⟨rfl, states⟩
  now _ _ states := ⟨states.clock.symm, states⟩
  deliver request rival state other _ states := by
    show (Http.Script.deliver request state).1 = (Http.Script.deliver rival other).1 ∧
      ScriptsAlike (Http.Script.deliver request state).2 (Http.Script.deliver rival other).2
    unfold Http.Script.deliver
    rw [states.reachable, states.answers]
    split
    · dsimp only
      cases state.answers with
      | nil => exact ⟨rfl, rfl, rfl, states.clock⟩
      | cons answer rest => exact ⟨rfl, rfl, rfl, states.clock⟩
    · exact ⟨rfl, states⟩

/-- The entries of a secret for an account, with these bytes for its client secret. -/
def accountEntries (clientSecret : List UInt8) : SecretData :=
  [("orgId", Text.Utf8.encode "org"), ("clientId", Text.Utf8.encode "id"),
    ("clientSecret", clientSecret)]

/-- The client secret of an account is disguised on its own. -/
theorem accountEntries_disguised {disguise : String → String} {bytes rival : List UInt8}
    (hidden : Credentials.value (accountEntries rival) Credentials.clientSecretKey =
      (Credentials.value (accountEntries bytes) Credentials.clientSecretKey).map disguise) :
    SecretData.Disguised disguise (accountEntries bytes) (accountEntries rival) := by
  refine ⟨fun key other => ?_, hidden⟩
  have apart : (key == "clientSecret") = false := beq_false_of_ne other
  simp only [accountEntries, List.lookup_cons, apart]

/-- A stored account is found with its client secret in a disguise. -/
theorem secretTurn_disguised {disguise : String → String} {stored other : String}
    (bytes rival : List UInt8) (decodes : Text.Base64.decode? stored.toList = some bytes)
    (rivalDecodes : Text.Base64.decode? other.toList = some rival)
    (hidden : Credentials.value (accountEntries rival) Credentials.clientSecretKey =
      (Credentials.value (accountEntries bytes) Credentials.clientSecretKey).map disguise) :
    (secretTurn stored).Disguised disguise (secretTurn other) where
  edits _ _ _ := by
    have entries {text : String} {bytes : List UInt8}
        (decodes : Text.Base64.decode? text.toList = some bytes) :
        Cluster.secretData? (.object [("orgId", .string "b3Jn"), ("clientId", .string "aWQ="),
          ("clientSecret", .string text)]) = some (some (accountEntries bytes)) := by
      have orgId : Text.Base64.decode? "b3Jn".toList = some (Text.Utf8.encode "org") := by
        decide +kernel
      have clientId : Text.Base64.decode? "aWQ=".toList = some (Text.Utf8.encode "id") := by
        decide +kernel
      simp only [Cluster.secretData?, Cluster.bytes?, List.mapM_cons, List.mapM_nil, decodes, orgId,
        clientId]
      rfl
    refine ⟨fun place => ?_, rfl, rfl⟩
    unfold secretTurn
    rw [List.lookup_cons, List.lookup_cons]
    cases place == ("team", "secret") with
    | false => exact .none
    | true =>
        apply Option.Rel.some
        apply StoredSecret.Disguised.kept
        rw [entries decodes, entries rivalDecodes]
        exact .some (.some (accountEntries_disguised hidden))
  resource := rfl
  intervals := rfl
  now := rfl
  cancelled := rfl

def shout (text : String) : String :=
  text ++ "!"

theorem tellsApart_shout : TellsApart shout := by
  intro first second _ _ same
  have letters := congrArg String.toList same
  rw [shout, shout, String.toList_append, String.toList_append] at letters
  exact String.toList_injective (List.append_cancel_right letters)

/-- A secret that is rotated away and back is seen in the same way when it is shouted, although
other requests are sent. -/
theorem client_secrets_stay_hidden_rotating :
    let turns := [secretTurn "b2xk", secretTurn "bmV3", secretTurn "b2xk"]
    let rivals := [secretTurn "b2xkIQ==", secretTurn "bmV3IQ==", secretTurn "b2xkIQ=="]
    let start : Deployment Http.Script := ⟨⟨[], [], []⟩, .empty, grantingScript⟩
    observations Http.Script.network serviceUrl turns start =
        observations Http.Script.network serviceUrl rivals start ∧
      (visits Http.Script.network serviceUrl turns start).map (fun visit =>
          visit.exchanges.map (·.request)) ≠
        (visits Http.Script.network serviceUrl rivals start).map (fun visit =>
          visit.exchanges.map (·.request)) := by
  intro turns rivals start
  have old : (secretTurn "b2xk").Disguised shout (secretTurn "b2xkIQ==") :=
    secretTurn_disguised (Text.Utf8.encode "old") (Text.Utf8.encode "old!")
      (by decide +kernel) (by decide +kernel) (by decide +kernel)
  have new : (secretTurn "bmV3").Disguised shout (secretTurn "bmV3IQ==") :=
    secretTurn_disguised (Text.Utf8.encode "new") (Text.Utf8.encode "new!")
      (by decide +kernel) (by decide +kernel) (by decide +kernel)
  have empty : Cluster.Disguised shout ⟨[], [], []⟩ ⟨[], [], []⟩ := ⟨fun _ => .none, rfl, rfl⟩
  have seen := client_secrets_stay_hidden script_alike tellsApart_shout serviceUrl
    (.cons old (.cons new (.cons old .nil))) empty (⟨rfl, rfl, rfl⟩ : ScriptsAlike grantingScript _)
  exact ⟨seen, by decide +kernel⟩

end Deployment

end OrgFederation

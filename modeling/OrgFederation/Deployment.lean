import OrgFederation.Account.ClientCache
import OrgFederation.Cluster.Basic
import OrgFederation.Reconciliation.Run

namespace OrgFederation

structure Deployment (ω : Type) where
  cluster : Cluster
  cache : ClientCache
  network : ω

namespace Deployment

variable {ω : Type}

/-- A client replies to the calls of a pass. What it learns is kept in the cache. -/
def remote (network : Http.Network ω) (base : Url) (client : Client) : Remote (Deployment ω) where
  reply call deployment :=
    let current := (deployment.cache.find? client.credentials.account).getD client
    let (reply, work) := Client.reply network base call ⟨current, deployment.network⟩
    (reply, { deployment with cache := deployment.cache.put work.client, network := work.network })

/-- The client for the secret of a resource. The namespace of the resource is that of the secret,
unless the reference names another. -/
def client (network : Http.Network ω) (resource : FederatedAuth) (deployment : Deployment ω) :
    Except OperatorError Client × Deployment ω :=
  let reference := resource.spec.connectionSecretRef
  let namespaceName := reference.namespaceWithin (resource.metadata.namespaceName.getD "")
  let label := namespaceName ++ "/" ++ reference.name
  if reference.name.isEmpty then
    (.error (.connection label "connectionSecretRef.name is empty"), deployment)
  else
    let (read, cluster) := deployment.cluster.readSecret namespaceName reference.name
    let deployment := { deployment with cluster }
    match read with
    | .error cause => (.error (.cluster cause), deployment)
    | .ok none => (.error (.connection label "secret not found"), deployment)
    | .ok (some data) =>
        match Credentials.ofSecret data with
        | .error problem => (.error (.connection label problem.message), deployment)
        | .ok credentials =>
            let (client, cache, state) :=
              deployment.cache.obtain network credentials deployment.network
            (client, { deployment with cache, network := state })

/-- A resource is connected to the organization of the client for its secret. -/
def connect (network : Http.Network ω) (base : Url) (resource : FederatedAuth)
    (deployment : Deployment ω) : Connecting (Deployment ω) × Deployment ω :=
  let (result, deployment) := client network resource deployment
  (⟨result.map fun client => ⟨client.credentials.orgId, remote network base client⟩, false⟩,
    deployment)

def patchStatus (patch : StatusPatch) (deployment : Deployment ω) :
    Except OperatorError Unit × Deployment ω :=
  let (result, cluster) := deployment.cluster.patchStatus patch
  (result, { deployment with cluster })

/-- The surroundings of reconciliations through a deployment. -/
def surroundings (network : Http.Network ω) (base : Url) : Surroundings (Deployment ω) :=
  ⟨connect network base, patchStatus⟩

end Deployment

end OrgFederation

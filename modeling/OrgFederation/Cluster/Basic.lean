import OrgFederation.Account.Credentials
import OrgFederation.Cluster.Paths
import OrgFederation.Reconciliation.Basic
import OrgFederation.Text.Base64

namespace OrgFederation

/-- A secret is there with its data as stored, or the cluster refuses to hand it out. -/
inductive StoredSecret where
  | kept (data : Json)
  | refused (code : Nat) (reason : String)
  deriving Repr

inductive ClusterRequest where
  | readSecret (path : String)
  | patchStatus (path query : String) (body : Json)
  | list (path : String)
  deriving Repr

/-- Secrets are kept by namespace and name; a patch meets the next of the refusals, which are
codes. -/
structure Cluster where
  secrets : List ((String × String) × StoredSecret)
  patchRefusals : List (Option Nat)
  requests : List ClusterRequest
  deriving Repr

namespace Cluster

def logged (cluster : Cluster) (request : ClusterRequest) : Cluster :=
  { cluster with requests := cluster.requests ++ [request] }

/-- A byte string is stored as Base64. -/
def bytes? : Json → Option (List UInt8)
  | .string text => Text.Base64.decode? text.toList
  | _ => none

/-- The entries of stored data; null is no data at all. -/
def secretData? : Json → Option (Option SecretData)
  | .null => some none
  | .object members =>
      (members.mapM fun (entry : String × Json) => (bytes? entry.2).map (Prod.mk entry.1)).map some
  | _ => none

/-- A refusal for this reason says that a secret does not exist. -/
def notFoundReason : String := "NotFound"

/-- The data of a secret, or nothing when the secret does not exist. A request without a name is not
made. -/
def readSecret (namespaceName name : String) (cluster : Cluster) :
    Except ClusterError (Option (Option SecretData)) × Cluster :=
  if name.isEmpty then
    (.error .other, cluster)
  else
    let found := match cluster.secrets.lookup (namespaceName, name) with
      | none => .ok none
      | some (.refused code reason) =>
          if reason = notFoundReason then .ok none else .error (.api code)
      | some (.kept data) =>
          match secretData? data with
          | some data => .ok (some data)
          | none => .error .other
    (found, cluster.logged (.readSecret (ClusterPath.secret namespaceName name)))

/-- A status patch is refused with the next code, if it is one. A request without a name is not
made. -/
def patchStatus (patch : StatusPatch) (cluster : Cluster) :
    Except OperatorError Unit × Cluster :=
  if patch.name.isEmpty then
    (.error (.cluster .other), cluster)
  else
    let cluster := cluster.logged (.patchStatus
      (ClusterPath.status patch.namespaceName patch.name) ClusterPath.managerQuery patch.body)
    match cluster.patchRefusals with
    | [] => (.ok (), cluster)
    | none :: rest => (.ok (), { cluster with patchRefusals := rest })
    | some code :: rest => (.error (.cluster (.api code)), { cluster with patchRefusals := rest })

/-- Listing the resources of a namespace or of all. -/
def listResources (namespaceName : Option String) (cluster : Cluster) : Cluster :=
  cluster.logged (.list (ClusterPath.resources namespaceName))

end Cluster

end OrgFederation

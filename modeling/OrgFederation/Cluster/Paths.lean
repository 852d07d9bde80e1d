import OrgFederation.Resource.FederatedAuth

namespace OrgFederation.ClusterPath

/-- The path of a secret. -/
def secret (namespaceName name : String) : String :=
  "/api/v1/namespaces/" ++ namespaceName ++ "/secrets/" ++ name

/-- The path of the resources of one namespace, or of all namespaces. -/
def resources (namespaceName : Option String) : String :=
  "/apis/" ++ FederatedAuth.apiGroup ++ "/" ++ FederatedAuth.apiVersion ++
    namespaceName.elim "" (fun name => "/namespaces/" ++ name) ++ "/" ++ FederatedAuth.plural

/-- The path of the status of a resource. -/
def status (namespaceName name : String) : String :=
  resources (some namespaceName) ++ "/" ++ name ++ "/status"

/-- The query of a write names the manager of the written fields. -/
def managerQuery : String := "&fieldManager=" ++ FederatedAuth.fieldManager

end OrgFederation.ClusterPath

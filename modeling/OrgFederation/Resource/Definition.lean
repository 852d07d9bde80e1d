import OrgFederation.Outcome
import OrgFederation.Resource.FederatedAuth
import OrgFederation.Resource.Schema

namespace OrgFederation.FederatedAuth

namespace Definition

def secretRef : Schema :=
  .described "Secret holding the organization id and API credentials" <|
  .record [("name", .described "Name of the secret" .text),
    ("namespace", .described "Namespace of the secret" (.nullable .text))] ["name"]

def roleAssignment : Schema :=
  .described "A role granted within a project, referenced by the project's name" <|
  .record
    [("projectName",
      .described "Human-readable project name, resolved to the project id on every pass" .text),
      ("role", .described "Role name (e.g. GROUP_OWNER, GROUP_READ_ONLY)" .text)]
    ["projectName", "role"]

def roleMapping : Schema :=
  .described "Maps an identity provider group to a list of project roles" <|
  .record
    [("externalGroupName", .described "Group name as reported by the identity provider" .text),
      ("roleAssignments", .described "Roles granted to members of the group"
        (.list roleAssignment))]
    ["externalGroupName"]

/-- What the specification says of itself, with an example. -/
def specDescription : String :=
  "FederatedAuth configures federated authentication for one organization.\n\nExample: ```yaml " ++
  "apiVersion: nimbus.dev/v1alpha1 kind: FederatedAuth metadata: name: corporate-sso " ++
  "namespace: platform spec: enabled: true connectionSecretRef: name: org-api-key " ++
  "domainAllowList: - example.com domainRestrictionEnabled: true ssoDebugEnabled: false " ++
  "postAuthRoleGrants: - ORG_MEMBER roleMappings: - externalGroupName: dba-team " ++
  "roleAssignments: - projectName: payments role: GROUP_OWNER ```"

def spec : Schema :=
  .described specDescription <|
  .record
    [("enabled", .described
      ("Whether the operator manages federated authentication. Unset and false both leave the " ++
        "remote configuration untouched.") (.nullable .flag)),
      ("connectionSecretRef", secretRef),
      ("domainAllowList", .described
        "Email domains allowed to authenticate through the identity provider" (.list .text)),
      ("domainRestrictionEnabled", .described
        "Restrict organization membership to users from allowed domains" (.nullable .flag)),
      ("ssoDebugEnabled", .described "Enable SSO debug mode on the identity provider"
        (.nullable .flag)),
      ("postAuthRoleGrants", .described
        "Organization roles granted to every user after federated login" (.list .text)),
      ("roleMappings", .described "Mappings from identity provider groups to project roles"
        (.list roleMapping))]
    ["connectionSecretRef"]

def condition : Schema :=
  .described "Kubernetes-style condition for status reporting" <|
  .record
    [("type", .described "Type of condition"
      (.choice ([ConditionType.ready, .federatedAuthReady].map ConditionType.name))),
      ("status", .described "Status of the condition (True, False, Unknown)"
        (.choice ([ConditionStatus.yes, .no, .unknown].map ConditionStatus.name))),
      ("reason", .described "Machine-readable reason, empty when the condition is simply true"
        .text),
      ("message", .described "Human-readable message" .text),
      ("lastTransitionTime", .described "Last time the condition's status changed" .moment)]
    ["lastTransitionTime", "status", "type"]

def status : Schema :=
  .described "FederatedAuth status" <| .nullable <|
  .record
    [("observedGeneration", .described
      "Generation of the spec the conditions were computed from" (.nullable .int64)),
      ("conditions", .described "Conditions representing the reconcile outcome"
        (.list condition))] []

def resource : Schema :=
  .described "Auto-generated derived type for FederatedAuthSpec via `CustomResource`" <|
  .record [("spec", spec), ("status", status)] ["spec"]

/-- A column of a listing. -/
def column (name type path : String) : Json :=
  .object [("jsonPath", .string path), ("name", .string name), ("type", .string type)]

/-- The path of a member of the condition that tells whether the resource is ready. -/
def readyPath (member : String) : String :=
  ".status.conditions[?(@.type==\"" ++ ConditionType.ready.name ++ "\")]." ++ member

def columns : Json :=
  .array [column "Enabled" "boolean" ".spec.enabled",
    column "Ready" "string" (readyPath "status"), column "Reason" "string" (readyPath "reason"),
    column "Age" "date" ".metadata.creationTimestamp"]

def version : Json :=
  .object [("additionalPrinterColumns", columns), ("name", .string apiVersion),
    ("schema", .object [("openAPIV3Schema",
      .object (resource.members.insert "title" (.string kind)))]),
    ("served", .bool true), ("storage", .bool true),
    ("subresources", .object [("status", .object [])])]

def names : Json :=
  .object [("categories", .array []), ("kind", .string kind), ("plural", .string plural),
    ("shortNames", Json.ofTexts ["fedauth"]), ("singular", .string "federatedauth")]

end Definition

/-- The definition of the resource. -/
def definition : Json :=
  .object [("apiVersion", .string "apiextensions.k8s.io/v1"),
    ("kind", .string "CustomResourceDefinition"),
    ("metadata", .object [("name", .string (plural ++ "." ++ apiGroup))]),
    ("spec", .object [("group", .string apiGroup), ("names", Definition.names),
      ("scope", .string "Namespaced"), ("versions", .array [Definition.version])])]

end OrgFederation.FederatedAuth

import OrgFederation.Json.Record

namespace OrgFederation

/-- A secret by its name, in a namespace of its own or in that of whoever refers to it. -/
structure SecretRef where
  name : String
  namespaceName : Option String
  deriving DecidableEq, Repr

namespace SecretRef

def namespaceWithin (reference : SecretRef) (fallback : String) : String :=
  reference.namespaceName.getD fallback

abbrev Parts := String × Option String × Unit

def fields : Json.Fields Parts :=
  .cons (.required "name" .text) <|
  .cons (.optional "namespace" .text) .nil

def ofParts : Parts → SecretRef
  | (name, home, ()) =>
      ⟨name, home⟩

def parts (reference : SecretRef) : Parts :=
  (reference.name, reference.namespaceName, ())

def codec : Json.Codec SecretRef :=
  fields.codec "SecretRef" ofParts parts

end SecretRef

/-- A role in a project that is given by its name. -/
structure RoleAssignment where
  projectName : String
  role : String
  deriving DecidableEq, Repr

namespace RoleAssignment

abbrev Parts := String × String × Unit

def fields : Json.Fields Parts :=
  .cons (.required "projectName" .text) <|
  .cons (.required "role" .text) .nil

def ofParts : Parts → RoleAssignment
  | (projectName, role, ()) =>
      ⟨projectName, role⟩

def parts (assignment : RoleAssignment) : Parts :=
  (assignment.projectName, assignment.role, ())

def codec : Json.Codec RoleAssignment :=
  fields.codec "RoleAssignment" ofParts parts

end RoleAssignment

/-- The roles that the members of a group get. -/
structure RoleMapping where
  externalGroupName : String
  roleAssignments : List RoleAssignment
  deriving DecidableEq, Repr

namespace RoleMapping

abbrev Parts := String × List RoleAssignment × Unit

def fields : Json.Fields Parts :=
  .cons (.required "externalGroupName" .text) <|
  .cons (.elidedList "roleAssignments" RoleAssignment.codec) .nil

def ofParts : Parts → RoleMapping
  | (group, assignments, ()) =>
      ⟨group, assignments⟩

def parts (mapping : RoleMapping) : Parts :=
  (mapping.externalGroupName, mapping.roleAssignments, ())

def codec : Json.Codec RoleMapping :=
  fields.codec "RoleMapping" ofParts parts

end RoleMapping

structure Spec where
  enabled : Option Bool
  connectionSecretRef : SecretRef
  domainAllowList : List String
  domainRestrictionEnabled : Option Bool
  ssoDebugEnabled : Option Bool
  postAuthRoleGrants : List String
  roleMappings : List RoleMapping
  deriving DecidableEq, Repr

namespace Spec

/-- Only an explicit yes hands the settings over. -/
def isEnabled (spec : Spec) : Bool :=
  spec.enabled == some true

abbrev Parts := Option Bool × SecretRef × List String × Option Bool × Option Bool × List String ×
  List RoleMapping × Unit

def fields : Json.Fields Parts :=
  .cons (.optional "enabled" .flag) <|
  .cons (.required "connectionSecretRef" SecretRef.codec) <|
  .cons (.elidedList "domainAllowList" .text) <|
  .cons (.optional "domainRestrictionEnabled" .flag) <|
  .cons (.optional "ssoDebugEnabled" .flag) <|
  .cons (.elidedList "postAuthRoleGrants" .text) <|
  .cons (.elidedList "roleMappings" RoleMapping.codec) .nil

def ofParts : Parts → Spec
  | (enabled, secret, domains, restricted, debug, grants, mappings, ()) =>
      ⟨enabled, secret, domains, restricted, debug, grants, mappings⟩

def parts (spec : Spec) : Parts :=
  (spec.enabled, spec.connectionSecretRef, spec.domainAllowList,
  spec.domainRestrictionEnabled, spec.ssoDebugEnabled, spec.postAuthRoleGrants,
  spec.roleMappings, ())

def codec : Json.Codec Spec :=
  fields.codec "FederatedAuthSpec" ofParts parts

end Spec

end OrgFederation

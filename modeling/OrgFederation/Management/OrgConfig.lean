import OrgFederation.Json.Record

namespace OrgFederation

/-- A role in the project `groupId` or in the organization `orgId`. -/
structure OrgRoleAssignment where
  groupId : Option String
  orgId : Option String
  role : String
  deriving DecidableEq, Repr, Inhabited

namespace OrgRoleAssignment

abbrev Parts := Option String × Option String × String × Unit

def fields : Json.Fields Parts :=
  .cons (.optional "groupId" .text) <|
  .cons (.optional "orgId" .text) <|
  .cons (.required "role" .text) .nil

def ofParts : Parts → OrgRoleAssignment
  | (groupId, orgId, role, ()) => ⟨groupId, orgId, role⟩

def parts (assignment : OrgRoleAssignment) : Parts :=
  (assignment.groupId, assignment.orgId, assignment.role, ())

def codec : Json.Codec OrgRoleAssignment :=
  fields.codec "OrgRoleAssignment" ofParts parts

end OrgRoleAssignment

/-- The roles of a group of the identity provider. -/
structure OrgRoleMapping where
  externalGroupName : String
  id : Option String
  roleAssignments : List OrgRoleAssignment
  deriving DecidableEq, Repr, Inhabited

namespace OrgRoleMapping

abbrev Parts := String × Option String × List OrgRoleAssignment × Unit

def fields : Json.Fields Parts :=
  .cons (.required "externalGroupName" .text) <|
  .cons (.optional "id" .text) <|
  .cons (.defaulted "roleAssignments" (.list OrgRoleAssignment.codec) []) .nil

def ofParts : Parts → OrgRoleMapping
  | (group, id, assignments, ()) => ⟨group, id, assignments⟩

def parts (mapping : OrgRoleMapping) : Parts :=
  (mapping.externalGroupName, mapping.id, mapping.roleAssignments, ())

def codec : Json.Codec OrgRoleMapping :=
  fields.codec "OrgRoleMapping" ofParts parts

end OrgRoleMapping

/-- A user whose identity collides with a federated one. -/
structure UserConflict where
  emailAddress : String
  federationSettingsId : Option String
  firstName : Option String
  lastName : Option String
  userId : Option String
  deriving DecidableEq, Repr, Inhabited

namespace UserConflict

abbrev Parts := String × Option String × Option String × Option String × Option String × Unit

def fields : Json.Fields Parts :=
  .cons (.required "emailAddress" .text) <|
  .cons (.optional "federationSettingsId" .text) <|
  .cons (.optional "firstName" .text) <|
  .cons (.optional "lastName" .text) <|
  .cons (.optional "userId" .text) .nil

def ofParts : Parts → UserConflict
  | (email, settings, firstName, lastName, user, ()) =>
      ⟨email, settings, firstName, lastName, user⟩

def parts (conflict : UserConflict) : Parts :=
  (conflict.emailAddress, conflict.federationSettingsId, conflict.firstName, conflict.lastName,
    conflict.userId, ())

def codec : Json.Codec UserConflict :=
  fields.codec "UserConflict" ofParts parts

end UserConflict

/-- The configuration that the service reports; an empty identity provider id means that the
organization is linked to none. -/
structure ConnectedOrgConfig where
  orgId : String
  identityProviderId : String
  domainAllowList : List String
  domainRestrictionEnabled : Option Bool
  postAuthRoleGrants : List String
  roleMappings : List OrgRoleMapping
  userConflicts : Option (List UserConflict)
  deriving DecidableEq, Repr, Inhabited

namespace ConnectedOrgConfig

/-- The addresses of the users in conflict, in the order of the report. -/
def usersInConflict (config : ConnectedOrgConfig) : List String :=
  (config.userConflicts.getD []).map UserConflict.emailAddress

abbrev Parts := String × String × List String × Option Bool × List String ×
  List OrgRoleMapping × Option (List UserConflict) × Unit

def fields : Json.Fields Parts :=
  .cons (.required "orgId" .text) <|
  .cons (.defaulted "identityProviderId" .text "") <|
  .cons (.defaulted "domainAllowList" (.list .text) []) <|
  .cons (.optional "domainRestrictionEnabled" .flag) <|
  .cons (.defaulted "postAuthRoleGrants" (.list .text) []) <|
  .cons (.defaulted "roleMappings" (.list OrgRoleMapping.codec) []) <|
  .cons (.optional "userConflicts" (.list UserConflict.codec)) .nil

def ofParts : Parts → ConnectedOrgConfig
  | (org, provider, domains, restricted, grants, mappings, conflicts, ()) =>
      ⟨org, provider, domains, restricted, grants, mappings, conflicts⟩

def parts (config : ConnectedOrgConfig) : Parts :=
  (config.orgId, config.identityProviderId, config.domainAllowList,
    config.domainRestrictionEnabled, config.postAuthRoleGrants, config.roleMappings,
    config.userConflicts, ())

def codec : Json.Codec ConnectedOrgConfig :=
  fields.codec "ConnectedOrgConfig" ofParts parts

end ConnectedOrgConfig

/-- The configuration that a pass wants the service to have. -/
structure DesiredOrgConfig where
  orgId : String
  identityProviderId : String
  domainAllowList : List String
  domainRestrictionEnabled : Option Bool
  postAuthRoleGrants : List String
  roleMappings : List OrgRoleMapping
  deriving DecidableEq, Repr, Inhabited

namespace DesiredOrgConfig

abbrev Parts := String × String × List String × Option Bool × List String ×
  List OrgRoleMapping × Unit

def fields : Json.Fields Parts :=
  .cons (.required "orgId" .text) <|
  .cons (.required "identityProviderId" .text) <|
  .cons (.required "domainAllowList" (.list .text)) <|
  .cons (.optional "domainRestrictionEnabled" .flag) <|
  .cons (.required "postAuthRoleGrants" (.list .text)) <|
  .cons (.required "roleMappings" (.list OrgRoleMapping.codec)) .nil

def ofParts : Parts → DesiredOrgConfig
  | (org, provider, domains, restricted, grants, mappings, ()) =>
      ⟨org, provider, domains, restricted, grants, mappings⟩

def parts (config : DesiredOrgConfig) : Parts :=
  (config.orgId, config.identityProviderId, config.domainAllowList,
    config.domainRestrictionEnabled, config.postAuthRoleGrants, config.roleMappings, ())

def codec : Json.Codec DesiredOrgConfig :=
  fields.codec "ResolvedOrgConfig" ofParts parts

/-- The configuration as the service stores it, with the users in conflict that it then reports. -/
def stored (config : DesiredOrgConfig) (conflicts : Option (List UserConflict)) :
    ConnectedOrgConfig :=
  ⟨config.orgId, config.identityProviderId, config.domainAllowList,
    config.domainRestrictionEnabled, config.postAuthRoleGrants, config.roleMappings, conflicts⟩

end DesiredOrgConfig

end OrgFederation

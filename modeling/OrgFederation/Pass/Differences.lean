import OrgFederation.Management.OrgConfig

namespace OrgFederation

/-- Two lists of role mappings agree when they are as long and agree place by place. -/
def sameMappings (desired observed : List OrgRoleMapping) : Bool :=
  desired.length == observed.length &&
    (desired.zip observed).all fun (wanted, held) =>
      wanted.externalGroupName == held.externalGroupName && wanted.id == held.id &&
        wanted.roleAssignments == held.roleAssignments

/-- The names of the fields that differ, in order of declaration. -/
def differingFields (desired : DesiredOrgConfig) (observed : ConnectedOrgConfig) : List String :=
  [("orgId", desired.orgId == observed.orgId),
    ("identityProviderId", desired.identityProviderId == observed.identityProviderId),
    ("domainAllowList", desired.domainAllowList == observed.domainAllowList),
    ("domainRestrictionEnabled",
      desired.domainRestrictionEnabled == observed.domainRestrictionEnabled),
    ("postAuthRoleGrants", desired.postAuthRoleGrants == observed.postAuthRoleGrants),
    ("roleMappings", sameMappings desired.roleMappings observed.roleMappings)].filterMap
      fun (name, same) => if same then none else some name

end OrgFederation

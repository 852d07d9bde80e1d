import OrgFederation.Pass.ProjectIds
import OrgFederation.Resource.Spec

namespace OrgFederation

namespace DesiredConfig

/-- The role assignments of one mapping, in order. -/
def assignments {σ : Type} (remote : Remote σ) (orgId externalGroup : String) :
    ProjectIds → List RoleAssignment →
      PassM σ MappingError (List OrgRoleAssignment × ProjectIds)
  | ids, [] => pure ([], ids)
  | ids, assignment :: rest => do
      let (id, ids) ← (projectId remote orgId ids assignment.projectName).failAs fun _ source =>
        ⟨externalGroup, assignment.projectName, source⟩
      let (others, ids) ← assignments remote orgId externalGroup ids rest
      return (⟨some id, none, assignment.role⟩ :: others, ids)

/-- The role mappings, in order, all tagged with the identity provider. -/
def mappings {σ : Type} (remote : Remote σ) (orgId providerId : String) :
    ProjectIds → List RoleMapping → PassM σ MappingError (List OrgRoleMapping × ProjectIds)
  | ids, [] => pure ([], ids)
  | ids, mapping :: rest => do
      let (roles, ids) ←
        assignments remote orgId mapping.externalGroupName ids mapping.roleAssignments
      let (others, ids) ← mappings remote orgId providerId ids rest
      return (⟨mapping.externalGroupName, some providerId, roles⟩ :: others, ids)

end DesiredConfig

/-- The configuration that a declaration stands for, given an organization and its identity
provider. -/
def desiredConfig {σ : Type} (remote : Remote σ) (orgId providerId : String) (spec : Spec) :
    PassM σ MappingError DesiredOrgConfig := do
  let (mappings, _) ← DesiredConfig.mappings remote orgId providerId [] spec.roleMappings
  return ⟨orgId, providerId, spec.domainAllowList, spec.domainRestrictionEnabled,
    spec.postAuthRoleGrants, mappings⟩

end OrgFederation

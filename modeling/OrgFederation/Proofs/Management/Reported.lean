import OrgFederation.Account.Client
import OrgFederation.Proofs.Json.Renditions
import OrgFederation.Proofs.Pass.Differences

namespace OrgFederation

open Json (Rendition)
open Json.Rendition (Kept Elidable)

namespace OrgRoleAssignment

/-- How a role assignment may be reported. -/
def rendition : Rendition :=
  .Extended [("groupId", Kept .exact), ("orgId", Kept .exact), ("role", Kept .exact)]

theorem survives (assignment : OrgRoleAssignment) : codec.Survives rendition 1 assignment :=
  Json.Fields.codec_survives (by decide) rfl rfl
    ⟨⟨_, rfl, Json.Field.optional_text_survives _⟩, ⟨_, rfl, Json.Field.optional_text_survives _⟩,
      ⟨_, rfl, Json.Field.required_text_survives _⟩, trivial⟩

end OrgRoleAssignment

namespace OrgRoleMapping

/-- How a role mapping may be reported. -/
def rendition : Rendition :=
  .Extended [("externalGroupName", Kept .exact), ("id", Kept .exact),
    ("roleAssignments", Elidable (.Each OrgRoleAssignment.rendition))]

theorem survives (mapping : OrgRoleMapping) : codec.Survives rendition 3 mapping :=
  Json.Fields.codec_survives (by decide) rfl rfl
    ⟨⟨_, rfl, Json.Field.required_text_survives _⟩, ⟨_, rfl, Json.Field.optional_text_survives _⟩,
      ⟨_, rfl, Json.Field.defaulted_list_survives fun assignment _ => assignment.survives⟩, trivial⟩

end OrgRoleMapping

namespace UserConflict

/-- How a user in conflict may be reported. -/
def rendition : Rendition :=
  .Extended [("emailAddress", Kept .exact), ("federationSettingsId", Kept .exact),
    ("firstName", Kept .exact), ("lastName", Kept .exact), ("userId", Kept .exact)]

theorem survives (conflict : UserConflict) : codec.Survives rendition 1 conflict :=
  Json.Fields.codec_survives (by decide) rfl rfl
    ⟨⟨_, rfl, Json.Field.required_text_survives _⟩, ⟨_, rfl, Json.Field.optional_text_survives _⟩,
      ⟨_, rfl, Json.Field.optional_text_survives _⟩, ⟨_, rfl, Json.Field.optional_text_survives _⟩,
      ⟨_, rfl, Json.Field.optional_text_survives _⟩, trivial⟩

end UserConflict

namespace ConnectedOrgConfig

/-- How a configuration may be reported: the lists of what a pass writes may be left out where they
are empty. -/
def rendition : Rendition :=
  .Extended [("orgId", Kept .exact), ("identityProviderId", Kept .exact),
    ("domainAllowList", Elidable (.Each .exact)), ("domainRestrictionEnabled", Kept .exact),
    ("postAuthRoleGrants", Elidable (.Each .exact)),
    ("roleMappings", Elidable (.Each OrgRoleMapping.rendition)),
    ("userConflicts", Kept (.Each UserConflict.rendition))]

theorem survives (config : ConnectedOrgConfig) : codec.Survives rendition 5 config := by
  have texts (values : List String) :
      ∀ value ∈ values, Json.Codec.text.Survives .exact 3 value :=
    fun value _ => (Json.Codec.text_survives value).mono (by decide)
  have conflicts : ∀ held ∈ config.userConflicts,
      (UserConflict.codec.list).Survives (.Each UserConflict.rendition) 4 held :=
    fun held _ => Json.Codec.list_survives fun conflict _ => conflict.survives.mono (by decide)
  exact Json.Fields.codec_survives (by decide) rfl rfl
    ⟨⟨_, rfl, Json.Field.required_text_survives _⟩, ⟨_, rfl, Json.Field.defaulted_text_survives _ _⟩,
      ⟨_, rfl, Json.Field.defaulted_list_survives (texts _)⟩,
      ⟨_, rfl, Json.Field.optional_flag_survives _⟩,
      ⟨_, rfl, Json.Field.defaulted_list_survives (texts _)⟩,
      ⟨_, rfl, Json.Field.defaulted_list_survives fun mapping _ => mapping.survives⟩,
      ⟨_, rfl, Json.Field.optional_survives Json.Codec.list_refusesNull conflicts⟩, trivial⟩

end ConnectedOrgConfig

namespace DesiredOrgConfig

end DesiredOrgConfig

end OrgFederation

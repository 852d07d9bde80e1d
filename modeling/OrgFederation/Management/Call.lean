import OrgFederation.Management.CallError
import OrgFederation.Management.IdentityProvider
import OrgFederation.Management.OrgConfig
import OrgFederation.Management.Project

namespace OrgFederation

/-- A call with its arguments. -/
inductive Call where
  | federationSettings (orgId : String)
  | connectedOrgConfig (settingsId orgId : String)
  | updateConnectedOrgConfig (settingsId orgId : String) (config : DesiredOrgConfig)
  | identityProvider (settingsId providerId : String)
  | updateIdentityProvider (settingsId providerId : String) (settings : IdentityProviderSettings)
  | projectByName (name : String)

namespace Call

/-- What a call asks for. An update is answered with what the service then holds. -/
def Answer : Call → Type
  | .federationSettings _ => FederationSettings
  | .connectedOrgConfig _ _ => ConnectedOrgConfig
  | .updateConnectedOrgConfig _ _ _ => ConnectedOrgConfig
  | .identityProvider _ _ => IdentityProviderSettings
  | .updateIdentityProvider _ _ _ => IdentityProviderSettings
  | .projectByName _ => Project

def method : Call → String
  | .federationSettings _ => "federation_settings"
  | .connectedOrgConfig _ _ => "connected_org_config"
  | .updateConnectedOrgConfig _ _ _ => "update_connected_org_config"
  | .identityProvider _ _ => "identity_provider"
  | .updateIdentityProvider _ _ _ => "update_identity_provider"
  | .projectByName _ => "project_by_name"

/-- The arguments of a call; an update has its body last. -/
def arguments : Call → List Json
  | .federationSettings org => [.string org]
  | .connectedOrgConfig settings org => [.string settings, .string org]
  | .updateConnectedOrgConfig settings org config =>
      [.string settings, .string org, DesiredOrgConfig.codec.encode config]
  | .identityProvider settings provider => [.string settings, .string provider]
  | .updateIdentityProvider settings provider body =>
      [.string settings, .string provider, IdentityProviderSettings.codec.encode body]
  | .projectByName name => [.string name]

/-- The codec of the answer to a call. -/
def answerCodec : (call : Call) → Json.Codec call.Answer
  | .federationSettings _ => FederationSettings.codec
  | .connectedOrgConfig _ _ => ConnectedOrgConfig.codec
  | .updateConnectedOrgConfig _ _ _ => ConnectedOrgConfig.codec
  | .identityProvider _ _ => IdentityProviderSettings.codec
  | .updateIdentityProvider _ _ _ => IdentityProviderSettings.codec
  | .projectByName _ => Project.codec

end Call

/-- A reply is an answer, during which the pass may have been cancelled, or the call never ends
because the pass was cancelled while it was under way. -/
inductive Reply (α : Type) where
  | answered (result : Except CallError α) (cancels : Bool)
  | stalled

/-- A remote replies to a call in a state and goes on to another. -/
structure Remote (σ : Type) where
  reply : (call : Call) → σ → Reply call.Answer × σ

end OrgFederation

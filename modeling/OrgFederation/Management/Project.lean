import OrgFederation.Json.Record

namespace OrgFederation

/-- A project belongs to one organization; its id is given by the service. -/
structure Project where
  id : String
  name : String
  orgId : String
  deriving DecidableEq, Repr, Inhabited

namespace Project

abbrev Parts := String × String × String × Unit

def fields : Json.Fields Parts :=
  .cons (.required "id" .text) <|
  .cons (.required "name" .text) <|
  .cons (.defaulted "orgId" .text "") .nil

def ofParts : Parts → Project
  | (id, name, orgId, ()) => ⟨id, name, orgId⟩

def parts (project : Project) : Parts :=
  (project.id, project.name, project.orgId, ())

def codec : Json.Codec Project :=
  fields.codec "Project" ofParts parts

end Project

/-- The federation settings name the identity provider that is attached, if any. -/
structure FederationSettings where
  id : String
  identityProviderId : Option String
  identityProviderStatus : Option String
  deriving DecidableEq, Repr, Inhabited

namespace FederationSettings

abbrev Parts := String × Option String × Option String × Unit

def fields : Json.Fields Parts :=
  .cons (.required "id" .text) <|
  .cons (.optional "identityProviderId" .text) <|
  .cons (.optional "identityProviderStatus" .text) .nil

def ofParts : Parts → FederationSettings
  | (id, provider, providerStatus, ()) => ⟨id, provider, providerStatus⟩

def parts (settings : FederationSettings) : Parts :=
  (settings.id, settings.identityProviderId, settings.identityProviderStatus, ())

def codec : Json.Codec FederationSettings :=
  fields.codec "FederationSettings" ofParts parts

end FederationSettings

end OrgFederation

import OrgFederation.Resource.Metadata
import OrgFederation.Resource.Spec
import OrgFederation.Resource.Status

namespace OrgFederation

structure FederatedAuth where
  metadata : Metadata
  spec : Spec
  status : Option Status
  deriving Repr

namespace FederatedAuth

def apiGroup : String := "nimbus.dev"

def apiVersion : String := "v1alpha1"

def kind : String := "FederatedAuth"

def plural : String := "federatedauths"

/-- Whoever writes a status names this manager. -/
def fieldManager : String := "nimbus-operator"

abbrev Parts := Metadata × Spec × Option Status × Unit

/-- The status may be absent from an object, not from an array. -/
def fields : Json.Fields Parts :=
  .cons (.required "metadata" Metadata.codec) <|
  .cons (.required "spec" Spec.codec) <|
  .cons { Json.Field.optional "status" Status.codec with absentItem := none } .nil

def ofParts : Parts → FederatedAuth
  | (metadata, spec, status, ()) =>
      ⟨metadata, spec, status⟩

def parts (resource : FederatedAuth) : Parts :=
  (resource.metadata, resource.spec, resource.status, ())

def recordCodec : Json.Codec FederatedAuth :=
  fields.codec kind ofParts parts

/-- The version and the kind are written and not read. -/
def codec : Json.Codec FederatedAuth where
  decode := recordCodec.decode
  encode resource :=
    .object (("apiVersion", .string (apiGroup ++ "/" ++ apiVersion)) :: ("kind", .string kind) ::
      fields.encode resource.parts)

end FederatedAuth

end OrgFederation

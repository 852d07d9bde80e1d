import OrgFederation.Json.Basic

namespace OrgFederation

/-- What values a schema admits. -/
inductive Schema where
  | text
  | flag
  | int64
  | moment
  | choice (names : List String)
  | list (item : Schema)
  | record (properties : List (String × Schema)) (required : List String)
  | nullable (schema : Schema)
  | described (description : String) (schema : Schema)

namespace Schema

/-- Members one by one put into their order. -/
def ordered (members : List (String × Json)) : Members :=
  members.foldl (fun ordered (name, value) => Members.insert name value ordered) []

def typed (name : String) (others : List (String × Json)) : Members :=
  ordered (("type", .string name) :: others)

mutual

/-- The members of the JSON form of a schema. -/
def members : Schema → Members
  | .text => typed "string" []
  | .flag => typed "boolean" []
  | .int64 => typed "integer" [("format", .string "int64")]
  | .moment => typed "string" [("format", .string "date-time")]
  | .choice names => typed "string" [("enum", Json.ofTexts names)]
  | .list item => typed "array" [("items", .object item.members)]
  | .record properties required =>
      typed "object" (("properties", .object (propertyMembers properties)) ::
        if required.isEmpty then [] else [("required", Json.ofTexts required)])
  | .nullable schema => schema.members.insert "nullable" (.bool true)
  | .described description schema => schema.members.insert "description" (.string description)

def propertyMembers : List (String × Schema) → Members
  | [] => []
  | (name, schema) :: rest => (propertyMembers rest).insert name (.object schema.members)

end

end Schema

end OrgFederation

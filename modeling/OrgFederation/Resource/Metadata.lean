/-
This file keeps object metadata. Only four of the fields matter here; the others are checked, kept
and written back.
-/

import OrgFederation.Time.Codec

namespace OrgFederation

/-- The metadata of an object; `others` holds the checked values of the other known fields. -/
structure Metadata where
  name : Option String
  generateName : Option String
  namespaceName : Option String
  generation : Option Int
  others : Members
  deriving Repr

namespace Metadata

/-- Objects that a cluster defines are read from maps alone; among repeated entries the last one
counts, and unknown entries are passed over. -/
abbrev LooseFields := List (String × Json.Codec (Option Json))

/-- A checked value is kept in its written form, and null is absence. -/
def kept {α : Type} (codec : Json.Codec α) : Json.Codec (Option Json) where
  decode depth node :=
    (codec.optional.decode depth node).map fun value => value.map codec.encode
  encode := fun value => value.getD .null

def decodeEntries (fields : LooseFields) (depth : Nat) :
    Json.Entries → List (String × Option Json) →
      Except Json.DecodeError (List (String × Option Json))
  | .closed, found => .ok found
  | .broken fault, _ => .error (.malformed fault)
  | .entry name node rest, found => do
      let name ← name.mapError .malformed
      match fields.lookup name with
      | some codec => do
          let value ← codec.decode depth node
          decodeEntries fields depth rest ((name, value) :: found)
      | none => do
          node.skip
          decodeEntries fields depth rest found

/-- The members of the fields that are present, with the given values for absent ones. -/
def decodeLoose (expected : String) (fields : LooseFields) (absent : Members) (depth : Nat) :
    Json.Node → Except Json.DecodeError Members
  | .object entries => Json.entering depth fun depth => do
      let found ← decodeEntries fields depth entries []
      return fields.foldl (fun members (name, _) =>
        match (found.lookup name).join <|> absent.lookup name with
        | some value => members.insert name value
        | none => members) []
  | node => .error (node.mismatch expected)

def looseCodec (expected : String) (fields : LooseFields) (absent : Members) :
    Json.Codec Members where
  decode := decodeLoose expected fields absent
  encode := .object

def ownerReference : Json.Codec Members :=
  looseCodec "OwnerReference"
    [("apiVersion", kept .text), ("blockOwnerDeletion", kept .flag), ("controller", kept .flag),
      ("kind", kept .text), ("name", kept .text), ("uid", kept .text)]
    [("apiVersion", .string ""), ("kind", .string ""), ("name", .string ""), ("uid", .string "")]

def managedFields : Json.Codec Members :=
  looseCodec "ManagedFieldsEntry"
    [("apiVersion", kept .text), ("fieldsType", kept .text), ("fieldsV1", kept .value),
      ("manager", kept .text), ("operation", kept .text), ("subresource", kept .text),
      ("time", kept Timestamp.codec)] []

def fields : LooseFields :=
  [("annotations", kept (Json.Codec.dictionary .text)), ("creationTimestamp", kept Timestamp.codec),
    ("deletionGracePeriodSeconds", kept .int64), ("deletionTimestamp", kept Timestamp.codec),
    ("finalizers", kept (Json.Codec.list .text)), ("generateName", kept .text),
    ("generation", kept .int64), ("labels", kept (Json.Codec.dictionary .text)),
    ("managedFields", kept managedFields.list), ("name", kept .text), ("namespace", kept .text),
    ("ownerReferences", kept ownerReference.list), ("resourceVersion", kept .text),
    ("selfLink", kept .text), ("uid", kept .text)]

def text? (members : Members) (name : String) : Option String :=
  match members.lookup name with
  | some (.string text) => some text
  | _ => none

def integer? (members : Members) (name : String) : Option Int :=
  match members.lookup name with
  | some (.number (.integer value)) => some value
  | _ => none

/-- The names of the fields that have a place of their own. -/
def ownNames : List String := ["name", "generateName", "namespace", "generation"]

def ofMembers (members : Members) : Metadata where
  name := text? members "name"
  generateName := text? members "generateName"
  namespaceName := text? members "namespace"
  generation := integer? members "generation"
  others := members.filter fun (name, _) => !ownNames.contains name

def toMembers (metadata : Metadata) : Members :=
  let texts := [("generateName", metadata.generateName), ("name", metadata.name),
    ("namespace", metadata.namespaceName)]
  let members := texts.foldl (fun members (name, text) =>
    text.elim members fun text => members.insert name (.string text)) metadata.others
  metadata.generation.elim members fun value => members.insert "generation" (.ofInt value)

def codec : Json.Codec Metadata where
  decode depth node := (decodeLoose "ObjectMeta" fields [] depth node).map ofMembers
  encode metadata := .object metadata.toMembers

/-- An object goes by its name, or by the stem of a name that is still to be generated. -/
def anyName (metadata : Metadata) : String :=
  (metadata.name <|> metadata.generateName).getD ""

end Metadata

end OrgFederation

/-
This file puts the decoder and the encoder of a type side by side. Of the problems of a record the
first one in document order is reported, and after the last entry the first missing field.
-/

import OrgFederation.Json.Decoder
import OrgFederation.Number.Word64

namespace OrgFederation.Json

/-- A codec decodes a node at a depth and encodes a value. -/
structure Codec (α : Type) where
  decode : Nat → Node → Except DecodeError α
  encode : α → Json

namespace Codec

def text : Codec String where
  decode _ := fun
    | .string (.ok value) => .ok value
    | node => .error (node.mismatch "a string")
  encode := .string

def flag : Codec Bool where
  decode _ := fun
    | .bool value => .ok value
    | node => .error (node.mismatch "a boolean")
  encode := .bool

/-- An integer between two bounds. -/
def integer (least greatest : Int) (expected : String) : Codec Int where
  decode _ := fun
    | .number (.ok (.integer value)) =>
        if least ≤ value && value ≤ greatest then .ok value
        else .error (.invalidValue (.number (.integer value)) expected)
    | node => .error (node.mismatch expected)
  encode := .ofInt

/-- A signed integer of 64 bits. -/
def int64 : Codec Int := integer Word64.leastSigned Word64.greatestSigned "i64"

/-- An unsigned integer of 64 bits. -/
def word64 : Codec Nat where
  decode depth node := ((integer 0 Word64.greatest "u64").decode depth node).map Int.toNat
  encode value := .ofInt value

/-- Any value at all. -/
def value : Codec Json where
  decode := Node.decodeValue
  encode := id

/-- Null stands for absence. -/
def optional {α : Type} (codec : Codec α) : Codec (Option α) where
  decode depth := fun
    | .null => .ok none
    | node => (codec.decode depth node).map some
  encode := fun
    | some value => codec.encode value
    | none => .null

/-- The items of an array decode in order. -/
def decodeItems {α : Type} (codec : Codec α) (depth : Nat) : Items → Except DecodeError (List α)
  | .closed => .ok []
  | .broken fault => .error (.malformed fault)
  | .item head rest => do
      let value ← codec.decode depth head
      let values ← decodeItems codec depth rest
      return value :: values

def list {α : Type} (codec : Codec α) : Codec (List α) where
  decode depth := fun
    | .array items => entering depth fun depth => decodeItems codec depth items
    | node => .error (node.mismatch "a sequence")
  encode values := .array (values.map codec.encode)

/-- The entries of an object decode in order, and a later entry replaces an earlier one. -/
def decodeEntries {α : Type} (codec : Codec α) (depth : Nat) :
    Entries → List (String × α) → Except DecodeError (List (String × α))
  | .closed, found => .ok found
  | .broken fault, _ => .error (.malformed fault)
  | .entry name node rest, found => do
      let name ← name.mapError .malformed
      let value ← codec.decode depth node
      decodeEntries codec depth rest (found.filter (·.1 != name) ++ [(name, value)])

/-- A dictionary has entries of one type under any names. -/
def dictionary {α : Type} (codec : Codec α) : Codec (List (String × α)) where
  decode depth := fun
    | .object entries => entering depth fun depth => decodeEntries codec depth entries []
    | node => .error (node.mismatch "a map")
  encode entries := .object (entries.map fun (name, value) => (name, codec.encode value))

/-- A choice is one of some names, alone or as the name of a null. -/
def choice {α : Type} (variants : List (String × α)) (nameOf : α → String) : Codec α where
  decode depth :=
    let find (name : String) : Except DecodeError α :=
      match variants.lookup name with
      | some value => .ok value
      | none => .error (.unknownVariant name (variants.map Prod.fst))
    fun
    | .string (.ok name) => find name
    | .string (.error fault) => .error (.malformed fault)
    | .object entries => entering depth fun _ =>
        match entries with
        | .closed => .error (.malformed .expectedValue)
        | .broken fault => .error (.malformed fault)
        | .entry name held rest => do
            let name ← name.mapError .malformed
            let value ← find name
            match held with
            | .null => pure ()
            | node => throw (node.mismatch "unit")
            match rest with
            | .closed => return value
            | _ => throw (.malformed .expectedValue)
    | .broken fault => .error (.malformed fault)
    | _ => .error (.malformed .expectedValue)
  encode value := .string (nameOf value)

end Codec

/-- A field of a record. An absent entry of an object and an absent item at the end of an array may
have a value each, and a value may be left out in writing. -/
structure Field (α : Type) where
  name : String
  codec : Codec α
  absentEntry : Option α
  absentItem : Option α
  omitted : α → Bool

namespace Field

/-- A field that is always there. -/
def required {α : Type} (name : String) (codec : Codec α) : Field α :=
  ⟨name, codec, none, none, fun _ => false⟩

/-- A field with a value for its absence, which is written all the same. -/
def defaulted {α : Type} (name : String) (codec : Codec α) (value : α) : Field α :=
  ⟨name, codec, some value, some value, fun _ => false⟩

/-- A field with a value for its absence, which is not written. -/
def elided {α : Type} [BEq α] (name : String) (codec : Codec α) (value : α) : Field α :=
  ⟨name, codec, some value, some value, fun held => held == value⟩

/-- A list that is not written when it is empty. -/
def elidedList {α : Type} (name : String) (codec : Codec α) : Field (List α) :=
  ⟨name, codec.list, some [], some [], List.isEmpty⟩

/-- A field that may be unset, which is not written. -/
def optional {α : Type} (name : String) (codec : Codec α) : Field (Option α) :=
  ⟨name, codec.optional, some none, some none, Option.isNone⟩

end Field

/-- The fields of a record in order of declaration; the index is the tuple of their values. -/
inductive Fields : Type → Type 1 where
  | nil : Fields Unit
  | cons {α β : Type} (head : Field α) (rest : Fields β) : Fields (α × β)

namespace Fields

/-- The values found so far. -/
def Draft : {α : Type} → Fields α → Type
  | _, .nil => Unit
  | _, .cons (α := α) _ rest => Option α × rest.Draft

def blank : {α : Type} → (fields : Fields α) → fields.Draft
  | _, .nil => ()
  | _, .cons _ rest => (none, rest.blank)

def size : {α : Type} → Fields α → Nat
  | _, .nil => 0
  | _, .cons _ rest => rest.size + 1

/-- An entry fills the field of its name, which must not be filled yet; an entry of any other name
has no field. -/
def store (depth : Nat) (name : String) (node : Node) :
    {α : Type} → (fields : Fields α) → fields.Draft → Option (Except DecodeError fields.Draft)
  | _, .nil, _ => none
  | _, .cons head rest, draft =>
      if name = head.name then
        some (match draft.1 with
          | some _ => .error (.duplicateField name)
          | none => (head.codec.decode depth node).map fun value => (some value, draft.2))
      else
        (store depth name node rest draft.2).map fun stored =>
          stored.map fun others => (draft.1, others)

/-- The values of all fields once no entry is left. -/
def finish : {α : Type} → (fields : Fields α) → fields.Draft → Except DecodeError α
  | _, .nil, _ => .ok ()
  | _, .cons head rest, draft =>
      match draft.1 <|> head.absentEntry with
      | none => .error (.missingField head.name)
      | some value => (finish rest draft.2).map fun values => (value, values)

/-- The entries are taken in document order. -/
def decodeEntries {α : Type} (fields : Fields α) (depth : Nat) :
    Entries → fields.Draft → Except DecodeError α
  | .closed, draft => fields.finish draft
  | .broken fault, _ => .error (.malformed fault)
  | .entry name node rest, draft => do
      let name ← name.mapError .malformed
      match fields.store depth name node draft with
      | some stored => do
          let draft ← stored
          fields.decodeEntries depth rest draft
      | none => do
          node.skip
          fields.decodeEntries depth rest draft

/-- The items of an array are the fields in order of declaration. -/
def decodeItems (depth : Nat) (expected : String) (position : Nat) :
    {α : Type} → Fields α → Items → Except DecodeError α
  | _, .nil, .closed => .ok ()
  | _, .nil, .broken fault => .error (.malformed fault)
  | _, .nil, .item _ _ => .error (.malformed .trailingCharacters)
  | _, .cons head rest, .closed =>
      match head.absentItem with
      | none => .error (.invalidLength position expected)
      | some value =>
          (decodeItems depth expected (position + 1) rest .closed).map fun values =>
            (value, values)
  | _, .cons _ _, .broken fault => .error (.malformed fault)
  | _, .cons head rest, .item node items => do
      let value ← head.codec.decode depth node
      let values ← decodeItems depth expected (position + 1) rest items
      return (value, values)

/-- The members of a record in order of declaration. -/
def encode : {α : Type} → Fields α → α → List (String × Json)
  | _, .nil, _ => []
  | _, .cons head rest, (value, values) =>
      if head.omitted value then rest.encode values
      else (head.name, head.codec.encode value) :: rest.encode values

/-- The codec of a record whose values are built from the tuple of its fields. -/
def codec {τ α : Type} (fields : Fields τ) (name : String) (build : τ → α) (parts : α → τ) :
    Codec α where
  decode depth := fun
    | .object entries => entering depth fun depth =>
        (fields.decodeEntries depth entries fields.blank).map build
    | .array items => entering depth fun depth =>
        let expected := "struct " ++ name ++ " with " ++ toString fields.size ++
          (if fields.size = 1 then " element" else " elements")
        (fields.decodeItems depth expected 0 items).map build
    | node => .error (node.mismatch ("struct " ++ name))
  encode value := .object (fields.encode (parts value))

end Fields

end OrgFederation.Json

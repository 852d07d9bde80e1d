import OrgFederation.Json.Reader
import OrgFederation.Number.Shortest
import OrgFederation.Text.Quoted

namespace OrgFederation.Json

/-- What was found where something else was expected. -/
inductive Found where
  | null
  | bool (value : Bool)
  | number (value : Number)
  | text (value : String)
  | sequence
  | map
  deriving DecidableEq, Repr

/-- The wording of what was found. -/
def Found.message : Found → String
  | .null => "null"
  | .bool value => "boolean `" ++ (if value then "true" else "false") ++ "`"
  | .number (.integer value) => "integer `" ++ toString value ++ "`"
  | .number (.binary64 value) => "floating point `" ++ value.text ++ "`"
  | .text value => "string " ++ Text.quoted value
  | .sequence => "sequence"
  | .map => "map"

/-- Why a document does not decode. -/
inductive DecodeError where
  | malformed (fault : Fault)
  | invalidType (found : Found) (expected : String)
  | invalidValue (found : Found) (expected : String)
  | invalidLength (length : Nat) (expected : String)
  | missingField (name : String)
  | duplicateField (name : String)
  | unknownVariant (name : String) (variants : List String)
  | invalidTime
  deriving DecidableEq, Repr

/-- Two variants are joined by a word, and more of them are listed. -/
def expectedVariants (variants : List String) : String :=
  let ticked := variants.map fun variant => "`" ++ variant ++ "`"
  match ticked with
  | [] => "there are no variants"
  | [only] => "expected " ++ only
  | [first, second] => "expected " ++ first ++ " or " ++ second
  | many => "expected one of " ++ ", ".intercalate many

/-- The wording of a problem. -/
def DecodeError.message : DecodeError → String
  | .malformed fault => fault.message
  | .invalidType found expected => "invalid type: " ++ found.message ++ ", expected " ++ expected
  | .invalidValue found expected => "invalid value: " ++ found.message ++ ", expected " ++ expected
  | .invalidLength length expected =>
      "invalid length " ++ toString length ++ ", expected " ++ expected
  | .missingField name => "missing field `" ++ name ++ "`"
  | .duplicateField name => "duplicate field `" ++ name ++ "`"
  | .unknownVariant name variants =>
      "unknown variant `" ++ name ++ "`, " ++ expectedVariants variants
  | .invalidTime => "input is no date and time"

/-- The depth at which decoding of a document starts. -/
def startDepth : Nat := 128

/-- Entering an array or an object takes up one level, and the last level is never entered. -/
def entering {α : Type} (depth : Nat) (inside : Nat → Except DecodeError α) :
    Except DecodeError α :=
  if depth ≤ 1 then .error (.malformed .tooDeep) else inside (depth - 1)

mutual

/-- The value of a node of any type. -/
def Node.decodeValue (depth : Nat) : Node → Except DecodeError Json
  | .null => .ok .null
  | .bool value => .ok (.bool value)
  | .number value => (value.map Json.number).mapError .malformed
  | .string value => (value.map Json.string).mapError .malformed
  | .array items => entering depth fun depth => (items.decodeValues depth).map .array
  | .object entries => entering depth fun depth => (entries.decodeMembers depth []).map .object
  | .broken fault => .error (.malformed fault)

def Items.decodeValues (depth : Nat) : Items → Except DecodeError (List Json)
  | .closed => .ok []
  | .broken fault => .error (.malformed fault)
  | .item head rest => do
      let value ← head.decodeValue depth
      let values ← rest.decodeValues depth
      return value :: values

/-- A later entry replaces an earlier one of its name. -/
def Entries.decodeMembers (depth : Nat) : Entries → Members → Except DecodeError Members
  | .closed, members => .ok members
  | .broken fault, _ => .error (.malformed fault)
  | .entry name value rest, members => do
      let name ← name.mapError .malformed
      let value ← value.decodeValue depth
      rest.decodeMembers depth (members.insert name value)

end

/-- The problem of a node that is none of the expected forms. -/
def Node.mismatch (expected : String) : Node → DecodeError
  | .null => .invalidType .null expected
  | .bool value => .invalidType (.bool value) expected
  | .number (.ok value) => .invalidType (.number value) expected
  | .number (.error fault) => .malformed fault
  | .string (.ok value) => .invalidType (.text value) expected
  | .string (.error fault) => .malformed fault
  | .array _ => .invalidType .sequence expected
  | .object _ => .invalidType .map expected
  | .broken fault => .malformed fault

/-- A value that nobody needs has only to be well-formed text. -/
def Node.skip (node : Node) : Except DecodeError Unit :=
  match node.textFault with
  | some fault => .error (.malformed fault)
  | none => .ok ()

/-- A document decodes when its root does and nothing follows it. -/
def Document.decode {α : Type} (decoder : Nat → Node → Except DecodeError α)
    (document : Document) : Except DecodeError α := do
  let value ← decoder startDepth document.root
  match document.behind with
  | some fault => throw (.malformed fault)
  | none => return value

/-- The value of a JSON text. -/
def ofText (text : String) : Except DecodeError Json :=
  (Document.ofText text).decode Node.decodeValue

end OrgFederation.Json

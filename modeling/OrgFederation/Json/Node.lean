/-
This file reads a document as nodes. A place where the text stops being JSON is kept as a fault, so
that whoever walks the nodes in document order meets a wrong value before a fault that comes later.
-/

import OrgFederation.Json.Basic

namespace OrgFederation.Json

/-- The ways in which a text is not a JSON document. -/
inductive Fault where
  | endInList
  | endInObject
  | endInString
  | endInValue
  | expectedColon
  | expectedListEnd
  | expectedObjectEnd
  | expectedWord
  | expectedValue
  | invalidEscape
  | invalidNumber
  | numberOutOfRange
  | invalidCodePoint
  | controlCharacter
  | nameNotText
  | loneSurrogate
  | unfinishedSurrogate
  | trailingComma
  | trailingCharacters
  | tooDeep
  deriving DecidableEq, Repr

/-- The wording of a fault. -/
def Fault.message : Fault → String
  | .endInList => "EOF while parsing a list"
  | .endInObject => "EOF while parsing an object"
  | .endInString => "EOF while parsing a string"
  | .endInValue => "EOF while parsing a value"
  | .expectedColon => "expected `:`"
  | .expectedListEnd => "expected `,` or `]`"
  | .expectedObjectEnd => "expected `,` or `\x7d`"
  | .expectedWord => "expected ident"
  | .expectedValue => "expected value"
  | .invalidEscape => "invalid escape"
  | .invalidNumber => "invalid number"
  | .numberOutOfRange => "number out of range"
  | .invalidCodePoint => "invalid unicode code point"
  | .controlCharacter => "control character (\\u0000-\\u001F) found while parsing a string"
  | .nameNotText => "key must be a string"
  | .loneSurrogate => "lone leading surrogate in hex escape"
  | .unfinishedSurrogate => "unexpected end of hex escape"
  | .trailingComma => "trailing comma"
  | .trailingCharacters => "trailing characters"
  | .tooDeep => "recursion limit exceeded"

mutual

/-- A value of a document. A number or a string that is well-formed but stands for no value carries
its fault, which matters only to those who need the value. -/
inductive Node where
  | null
  | bool (value : Bool)
  | number (value : Except Fault Number)
  | string (value : Except Fault String)
  | array (items : Items)
  | object (entries : Entries)
  | broken (fault : Fault)

/-- The items of an array up to its end or to a fault. -/
inductive Items where
  | closed
  | broken (fault : Fault)
  | item (head : Node) (rest : Items)

/-- The entries of an object up to its end or to a fault. -/
inductive Entries where
  | closed
  | broken (fault : Fault)
  | entry (name : Except Fault String) (value : Node) (rest : Entries)

end

instance : Inhabited Node := ⟨.null⟩

/-- A document is a node and the fault behind it, if more than white space follows. -/
structure Document where
  root : Node
  behind : Option Fault

mutual

/-- The first fault of the text of a node. A value that stands for nothing is not such a fault. -/
def Node.textFault : Node → Option Fault
  | .array items => items.textFault
  | .object entries => entries.textFault
  | .broken fault => some fault
  | _ => none

def Items.textFault : Items → Option Fault
  | .closed => none
  | .broken fault => some fault
  | .item head rest => head.textFault <|> rest.textFault

def Entries.textFault : Entries → Option Fault
  | .closed => none
  | .broken fault => some fault
  | .entry _ value rest => value.textFault <|> rest.textFault

end

end OrgFederation.Json

import OrgFederation.Number.Literal

namespace OrgFederation

/-- A JSON value. -/
inductive Json where
  | null
  | bool (value : Bool)
  | number (value : Number)
  | string (value : String)
  | array (items : List Json)
  | object (members : List (String × Json))
  deriving Repr, Inhabited

namespace Json

/-- The member of a name. -/
def member? (name : String) : Json → Option Json
  | .object members => members.lookup name
  | _ => none

/-- An integer as a JSON number. -/
def ofInt (value : Int) : Json :=
  .number (.integer value)

/-- A list of texts as a JSON array. -/
def ofTexts (texts : List String) : Json :=
  .array (texts.map .string)

/-- A text that may be absent, with null for its absence. -/
def ofText? (text : Option String) : Json :=
  (text.map Json.string).getD .null

end Json

/-- Members in strictly increasing order of their names. -/
abbrev Members := List (String × Json)

namespace Members

/-- Inserting keeps the order, and a later value replaces an earlier one of its name. -/
def insert (name : String) (value : Json) : Members → Members
  | [] => [(name, value)]
  | (other, held) :: rest =>
      if name < other then
        (name, value) :: (other, held) :: rest
      else if name = other then
        (name, value) :: rest
      else
        (other, held) :: insert name value rest

end Members

end OrgFederation

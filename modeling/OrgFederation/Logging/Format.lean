import OrgFederation.OperatorError

namespace OrgFederation

/-- A log line is a JSON object or a text for people. -/
inductive LogFormat where
  | json
  | text
  deriving DecidableEq, Repr

namespace LogFormat

def name : LogFormat → String
  | .json => "json"
  | .text => "text"

/-- The format of a program that is told none. -/
def standard : LogFormat := .json

/-- A format is told by its name in letters of any case; one of them has a second name. -/
def ofText (text : String) : Except OperatorError LogFormat :=
  match text.toLower with
  | "json" => .ok .json
  | "text" | "pretty" => .ok .text
  | _ =>
      .error (.validation OperatorError.unnamed
        ("invalid log format: " ++ text ++ ", expected one of: json, text"))

end LogFormat

end OrgFederation

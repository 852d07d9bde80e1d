import OrgFederation.Json.Writer
import OrgFederation.Logging.Filter
import OrgFederation.Logging.Format

namespace OrgFederation

/-- A log line tells its source, a message and some fields. -/
structure LogLine where
  level : LogLevel
  source : String
  message : String
  fields : List (String × String)
  deriving DecidableEq, Repr

namespace LogLine

/-- The level in capital letters. -/
def levelName (line : LogLine) : String :=
  line.level.name.toUpper

/-- The fields with the message in front. -/
def members (line : LogLine) : List (String × Json) :=
  ("message", .string line.message) ::
    line.fields.map fun (name, value) => (name, .string value)

/-- The form for machines. -/
def json (line : LogLine) : Json :=
  .object [("level", .string line.levelName), ("fields", .object line.members),
    ("target", .string line.source)]

/-- The form for people. -/
def text (line : LogLine) : String :=
  line.levelName ++ " " ++ line.source ++ ": " ++ line.message ++
    String.join (line.fields.map fun (name, value) => " " ++ name ++ "=" ++ value)

def render (format : LogFormat) (line : LogLine) : String :=
  match format with
  | .json => line.json.render
  | .text => line.text

end LogLine

end OrgFederation

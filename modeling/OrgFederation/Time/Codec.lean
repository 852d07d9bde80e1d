import OrgFederation.Json.Record
import OrgFederation.Time.Reader

namespace OrgFederation.Timestamp

/-- A point in time is written in UTC and read with any offset. -/
def codec : Json.Codec Timestamp where
  decode _ := fun
    | .string (.ok text) =>
        match ofText? text with
        | some time => .ok time
        | none => .error .invalidTime
    | node => .error (node.mismatch "an RFC 3339 formatted date and time string")
  encode time := .string time.text

end OrgFederation.Timestamp

import OrgFederation.Http.Message
import OrgFederation.Http.Status
import OrgFederation.Json.Record
import OrgFederation.Management.CallError

namespace OrgFederation

/-- The body of an answer that reports a failure. -/
structure FailureBody where
  errorCode : Option String
  detail : Option String
  deriving DecidableEq, Repr

namespace FailureBody

abbrev Parts := Option String × Option String × Unit

def fields : Json.Fields Parts :=
  .cons (.optional "errorCode" .text) <|
  .cons (.optional "detail" .text) .nil

def ofParts : Parts → FailureBody
  | (errorCode, detail, ()) => ⟨errorCode, detail⟩

def parts (body : FailureBody) : Parts :=
  (body.errorCode, body.detail, ())

def codec : Json.Codec FailureBody :=
  fields.codec "ErrorBody" ofParts parts

/-- A body of any other form tells nothing. -/
def ofBytes (bytes : List UInt8) : FailureBody :=
  match (Json.Document.ofBytes bytes).decode codec.decode with
  | .ok body => body
  | .error _ => ⟨none, none⟩

end FailureBody

namespace Http.Response

/-- The failure of an answer whose status is no success. The phrase of the status stands in for a
missing detail. -/
def failure (response : Response) : CallError :=
  let body := FailureBody.ofBytes response.body
  .ofResponse response.status (body.errorCode.getD "")
    (body.detail.getD (phrase response.status))

/-- The value or the failure of an answer. -/
def read {α : Type} (codec : Json.Codec α) (response : Response) : Except CallError α :=
  if isSuccess response.status then
    ((Json.Document.ofBytes response.body).decode codec.decode).mapError fun problem =>
      .decode problem.message
  else
    .error response.failure

end Http.Response

end OrgFederation

import OrgFederation.Text.Base64
import OrgFederation.Url.Endpoint

namespace OrgFederation.Http

inductive Method where
  | get
  | post
  | patch
  deriving DecidableEq, Repr

def Method.name : Method → String
  | .get => "GET"
  | .post => "POST"
  | .patch => "PATCH"

/-- The names of headers are in lower case. -/
abbrev Headers := List (String × String)

structure Request where
  method : Method
  url : Url
  headers : Headers
  body : String
  deriving DecidableEq, Repr

structure Response where
  status : Nat
  body : List UInt8
  deriving DecidableEq, Repr

/-- A request gets no answer, an answer whose body ends too early, or an answer. -/
inductive Delivery where
  | unanswered
  | cut
  | answered (response : Response)
  deriving DecidableEq, Repr

/-- The value that tells a name and a password. -/
def basicValue (name password : String) : String :=
  "Basic " ++ String.ofList (Text.Base64.encode (Text.Utf8.encode (name ++ ":" ++ password)))

/-- The value that tells a token. -/
def bearerValue (token : String) : String :=
  "Bearer " ++ token

/-- No control but a tab is part of the value of a header. -/
def isValueLetter (letter : Char) : Bool :=
  letter == '\t' || (0x20 ≤ letter.toNat && letter.toNat != 0x7F)

def isValue (value : String) : Bool :=
  value.toList.all isValueLetter

/-- The program names itself in every request. -/
def userAgent : String := "nimbus-operator/0.1.0"

/-- The name and the password of the user information of a URL, when both are texts. -/
def userinfo? (url : Url) : Option (String × String) := do
  let authority ← url.authority
  if authority.userinfo.isEmpty then none
  else do
    let (name, password) := authority.userinfo.span (· != ':')
    let name ← Text.Utf8.characters? (Percent.decode name)
    let password ← Text.Utf8.characters? (Percent.decode password.tail)
    return (String.ofList name, String.ofList password)

/-- User information of the URL of a request is told in a header of its own. -/
def Request.to (method : Method) (url : Url) (headers : Headers) (body : String) : Request :=
  let named := ("user-agent", userAgent) :: headers
  match userinfo? url with
  | some (name, password) =>
      ⟨method, url.withoutUserinfo, ("authorization", basicValue name password) :: named, body⟩
  | none => ⟨method, url, named, body⟩

/-- The first header of a name. -/
def Request.header? (request : Request) (name : String) : Option String :=
  request.headers.lookup name

end OrgFederation.Http

import OrgFederation.Account.Answer
import OrgFederation.Account.Credentials
import OrgFederation.Http.Network
import OrgFederation.Json.Writer
import OrgFederation.Management.Call

namespace OrgFederation

/-- What the service grants in exchange for credentials. -/
structure TokenGrant where
  accessToken : String
  expiresIn : Option Nat
  deriving DecidableEq, Repr

namespace TokenGrant

abbrev Parts := String × Option Nat × Unit

def fields : Json.Fields Parts :=
  .cons (.required "access_token" .text) <|
  .cons (.optional "expires_in" .word64) .nil

def ofParts : Parts → TokenGrant
  | (token, seconds, ()) => ⟨token, seconds⟩

def parts (grant : TokenGrant) : Parts :=
  (grant.accessToken, grant.expiresIn, ())

def codec : Json.Codec TokenGrant :=
  fields.codec "TokenResponse" ofParts parts

/-- The seconds for which a token holds when the service does not tell. -/
def usualLifetime : Nat := 3600

/-- A token is given up this many seconds before it expires. -/
def margin : Nat := 60

/-- The seconds for which a token is used; a short-lived one is used once. -/
def useSeconds (grant : TokenGrant) : Nat :=
  grant.expiresIn.getD usualLifetime - margin

end TokenGrant

/-- A token is used until its time has come. -/
structure Token where
  value : String
  refreshAt : Instant
  deriving DecidableEq, Repr

/-- Clients are told apart by their serial numbers. -/
structure Client where
  serial : Nat
  credentials : Credentials
  token : Option Token
  deriving DecidableEq, Repr

/-- A call fails, or it never returns, because the clock cannot represent the time until which a
token is used. -/
inductive CallFailure where
  | reported (error : CallError)
  | clockOverflow
  deriving Repr

/-- A client at work on a network. -/
structure ClientWork (ω : Type) where
  client : Client
  network : ω

abbrev ClientM (ω α : Type) := ExceptT CallFailure (StateM (ClientWork ω)) α

namespace Call

/-- The path of the entity that a call is about. -/
def path : Call → List String
  | .federationSettings org => ["api", "atlas", "v2", "orgs", org, "federationSettings"]
  | .connectedOrgConfig settings org | .updateConnectedOrgConfig settings org _ =>
      ["api", "atlas", "v2", "federationSettings", settings, "connectedOrgConfigs", org]
  | .identityProvider settings provider | .updateIdentityProvider settings provider _ =>
      ["api", "atlas", "v2", "federationSettings", settings, "identityProviders", provider]
  | .projectByName name => ["api", "atlas", "v2", "groups", "byName", name]

/-- What a call sends. Only updates have a body. -/
def body? : Call → Option Json
  | .updateConnectedOrgConfig _ _ config => some (DesiredOrgConfig.codec.encode config)
  | .updateIdentityProvider _ _ settings =>
      some (IdentityProviderSettings.codec.encode settings)
  | _ => none

end Call

namespace Client

/-- The versioned media type of the management service. -/
def mediaType : String := "application/vnd.atlas.2023-01-01+json"

/-- A client with no token yet. -/
def fresh (serial : Nat) (credentials : Credentials) : Client :=
  ⟨serial, credentials, none⟩

/-- Whether a client was made for some credentials. -/
def uses (client : Client) (credentials : Credentials) : Bool :=
  client.credentials == credentials

/-- The failure of a request that cannot be carried out. -/
def transportFailure (detail : String) : CallFailure :=
  .reported (.transport detail)

variable {ω : Type}

/-- The address of a path below the base address of the service. -/
def endpoint (base : Url) (path : List String) : ClientM ω Url :=
  match base.below? path with
  | some url => pure url
  | none => throw (transportFailure (base.text ++ " cannot be a base URL"))

/-- A reading of the clock. -/
def readClock (network : Http.Network ω) : ClientM ω Instant :=
  modifyGet fun work =>
    let (instant, state) := network.now work.network
    (instant, { work with network := state })

/-- The answer to a request, which is sent only over the web. -/
def send (network : Http.Network ω) (stage : String) (request : Http.Request) :
    ClientM ω Http.Response := do
  let place := " for url (" ++ request.url.text ++ ")"
  if request.url.isHttp then
    let delivery : Http.Delivery ← modifyGet fun work =>
      let (delivery, state) := network.deliver request work.network
      (delivery, { work with network := state })
    match delivery with
    | .answered response => return response
    | .unanswered => throw (transportFailure (stage ++ "error sending request" ++ place))
    | .cut =>
        throw (transportFailure "failed to read response: error decoding response body")
  else
    throw (transportFailure (stage ++ "builder error" ++ place))

/-- The value that an answer carries. -/
def readAnswer {α : Type} (codec : Json.Codec α) (response : Http.Response) : ClientM ω α :=
  match response.read codec with
  | .ok value => pure value
  | .error error => throw (.reported error)

def tokenPath : List String := ["api", "oauth", "token"]

/-- The request that exchanges credentials for a token. -/
def tokenRequest (credentials : Credentials) (url : Url) : Http.Request :=
  .to .post url
    [("authorization", Http.basicValue credentials.clientId credentials.clientSecret),
      ("accept", "application/json"), ("content-type", "application/x-www-form-urlencoded")]
    "grant_type=client_credentials"

/-- The token that is held, while its time has not come. -/
def heldToken? (network : Http.Network ω) : ClientM ω (Option String) := do
  match (← get).client.token with
  | none => return none
  | some token => do
      let now ← readClock network
      return if now < token.refreshAt then some token.value else none

/-- A new token, which is held from now on. -/
def newToken (network : Http.Network ω) (base : Url) : ClientM ω String := do
  let url ← endpoint base tokenPath
  let request := tokenRequest (← get).client.credentials url
  let response ← send network "token request failed: " request
  let grant ← readAnswer TokenGrant.codec response
  match (← readClock network).after? grant.useSeconds with
  | none => throw .clockOverflow
  | some refreshAt => do
      modify fun work =>
        { work with client := { work.client with token := some ⟨grant.accessToken, refreshAt⟩ } }
      return grant.accessToken

/-- The token for the next call. -/
def accessToken (network : Http.Network ω) (base : Url) : ClientM ω String := do
  match ← heldToken? network with
  | some token => return token
  | none => newToken network base

/-- The request of a call with a token. -/
def callRequest (call : Call) (url : Url) (token : String) : Http.Request :=
  let headers :=
    [("authorization", Http.bearerValue token), ("accept", mediaType)]
  match call.body? with
  | some body => .to .patch url (("content-type", mediaType) :: headers) body.render
  | none => .to .get url headers ""

/-- A call to the service. Its address is known before a token is asked for. -/
def perform (network : Http.Network ω) (base : Url) (call : Call) :
    ClientM ω call.Answer := do
  let url ← endpoint base call.path
  let token ← accessToken network base
  if Http.isValue token then
    let response ← send network "" (callRequest call url token)
    readAnswer call.answerCodec response
  else
    throw (transportFailure "builder error")

/-- A call as a reply. A call that never returns leaves the pass waiting until it is cancelled. -/
def reply (network : Http.Network ω) (base : Url) (call : Call) (work : ClientWork ω) :
    Reply call.Answer × ClientWork ω :=
  match (perform network base call).run work with
  | (.ok answer, work) => (.answered (.ok answer) false, work)
  | (.error (.reported error), work) => (.answered (.error error) false, work)
  | (.error .clockOverflow, work) => (.stalled, work)

end Client

end OrgFederation

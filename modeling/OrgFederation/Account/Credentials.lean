import OrgFederation.Text.Blank
import OrgFederation.Text.Quoted
import OrgFederation.Text.Utf8

namespace OrgFederation

structure Credentials where
  orgId : String
  clientId : String
  clientSecret : String
  deriving DecidableEq, Repr

/-- The entries of a secret by their keys. -/
abbrev SecretData := List (String × List UInt8)

/-- What is wrong with the value of a key. -/
inductive CredentialsError where
  | missing (key : String)
  | notText (key : String)
  | empty (key : String)
  deriving DecidableEq, Repr

def CredentialsError.message : CredentialsError → String
  | .missing key => "missing key " ++ key
  | .notText key => "key " ++ key ++ " is not valid UTF-8"
  | .empty key => "key " ++ key ++ " is empty"

namespace Credentials

def orgIdKey : String := "orgId"

def clientIdKey : String := "clientId"

def clientSecretKey : String := "clientSecret"

/-- The trimmed text of a key. -/
def value (data : SecretData) (key : String) : Except CredentialsError String :=
  match data.lookup key with
  | none => .error (.missing key)
  | some bytes =>
      match Text.Utf8.decode? bytes with
      | none => .error (.notText key)
      | some text =>
          let trimmed := Text.trim text
          if trimmed.isEmpty then .error (.empty key) else .ok trimmed

/-- The keys are read in order, and the first one that is wrong is reported. A secret without data
has no key. -/
def ofSecret (data : Option SecretData) : Except CredentialsError Credentials := do
  let data := data.getD []
  let orgId ← value data orgIdKey
  let clientId ← value data clientIdKey
  let clientSecret ← value data clientSecretKey
  return ⟨orgId, clientId, clientSecret⟩

/-- The organization and the client id tell service accounts apart. -/
def account (credentials : Credentials) : String × String :=
  (credentials.orgId, credentials.clientId)

/-- A description for logs, which hides the client secret. -/
def description (credentials : Credentials) : String :=
  "Credentials \x7b org_id: " ++ Text.quoted credentials.orgId ++ ", client_id: " ++
    Text.quoted credentials.clientId ++ ", client_secret: \"<redacted>\" \x7d"

end Credentials

end OrgFederation

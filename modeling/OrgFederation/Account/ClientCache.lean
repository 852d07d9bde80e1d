import OrgFederation.Account.Client
import OrgFederation.OperatorError

namespace OrgFederation

/-- At most one client for each account; `made` counts all the clients made so far. -/
structure ClientCache where
  clients : List ((String × String) × Client)
  made : Nat
  deriving DecidableEq, Repr

namespace ClientCache

def empty : ClientCache := ⟨[], 0⟩

/-- The client of an account. -/
def find? (cache : ClientCache) (account : String × String) : Option Client :=
  cache.clients.lookup account

/-- A client takes the place of the one of its account. -/
def put (cache : ClientCache) (client : Client) : ClientCache :=
  let account := client.credentials.account
  { cache with
    clients := (account, client) :: cache.clients.filter fun (other, _) => other != account }

/-- The error of a connection pool that does not open. -/
def poolError (detail : String) : OperatorError :=
  .internal "management-api"
    (CallError.transport ("failed to build HTTP client: " ++ detail)).message

variable {ω : Type}

/-- A new client for some credentials. -/
def make (network : Http.Network ω) (credentials : Credentials) (cache : ClientCache)
    (state : ω) : Except OperatorError Client × ClientCache × ω :=
  match network.openPool state with
  | (.error detail, state) => (.error (poolError detail), cache, state)
  | (.ok (), state) =>
      let client := Client.fresh cache.made credentials
      (.ok client, { cache.put client with made := cache.made + 1 }, state)

/-- The client for some credentials: the one of the account, if it uses just these, or a new one. -/
def obtain (network : Http.Network ω) (credentials : Credentials) (cache : ClientCache)
    (state : ω) : Except OperatorError Client × ClientCache × ω :=
  match cache.find? credentials.account with
  | some client =>
      if client.uses credentials then (.ok client, cache, state)
      else make network credentials cache state
  | none => make network credentials cache state

end ClientCache

end OrgFederation

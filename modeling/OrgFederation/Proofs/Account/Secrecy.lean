import OrgFederation.Account.ClientCache
import OrgFederation.Proofs.Account.Cache
import OrgFederation.Proofs.Account.Disguise
import OrgFederation.Proofs.Account.Exchanges
import OrgFederation.Proofs.Stateful

namespace OrgFederation

variable {ω τ α : Type}

namespace Http

/-- A header without what it authorizes with. -/
def Request.blankAuthorization (header : String × String) : String × String :=
  if header.1 = "authorization" then (header.1, "") else header

/-- A request without what it authorizes itself with, if it is one for a token. -/
def Request.redacted (request : Request) : Request :=
  match request.method with
  | .post => { request with headers := request.headers.map Request.blankAuthorization }
  | .get | .patch => request

theorem Request.redacted_url (request : Request) : request.redacted.url = request.url := by
  unfold Request.redacted
  split <;> rfl

/-- Networks that do the same in states that are alike, whatever token requests authorize themselves
with. -/
structure Network.Alike (alike : ω → τ → Prop) (first : Network ω) (second : Network τ) :
    Prop where
  openPool : ∀ state other, alike state other →
    (first.openPool state).1 = (second.openPool other).1 ∧
      alike (first.openPool state).2 (second.openPool other).2
  now : ∀ state other, alike state other →
    (first.now state).1 = (second.now other).1 ∧ alike (first.now state).2 (second.now other).2
  deliver : ∀ request rival state other, request.redacted = rival.redacted → alike state other →
    (first.deliver request state).1 = (second.deliver rival other).1 ∧
      alike (first.deliver request state).2 (second.deliver rival other).2

/-- States that are alike, with the same requests noted, but for what token requests authorize
themselves with. -/
def NotedAlike (alike : ω → τ → Prop) (first : ω × List Exchange) (second : τ × List Exchange) :
    Prop :=
  alike first.1 second.1 ∧
    first.2.map (fun exchange => exchange.request.redacted) =
      second.2.map fun exchange => exchange.request.redacted

/-- Networks that do the same note the same. -/
theorem Network.Alike.recorded {alike : ω → τ → Prop} {first : Network ω} {second : Network τ}
    (networks : first.Alike alike second) :
    first.recorded.Alike (NotedAlike alike) second.recorded where
  openPool state other states := by
    obtain ⟨told, ended⟩ := networks.openPool state.1 other.1 states.1
    exact ⟨told, ended, states.2⟩
  now state other states := by
    obtain ⟨told, ended⟩ := networks.now state.1 other.1 states.1
    exact ⟨told, ended, states.2⟩
  deliver request rival state other same states := by
    obtain ⟨told, ended⟩ := networks.deliver request rival state.1 other.1 same states.1
    refine ⟨told, ended, ?_⟩
    show (state.2 ++ [_]).map _ = (other.2 ++ [_]).map _
    rw [List.map_append, List.map_append, states.2]
    simp [same]

end Http

/-- The same client, the second time with its secret in a disguise. -/
structure Client.Disguised (disguise : String → String) (first second : Client) : Prop where
  same : second = { first with credentials := first.credentials.disguised disguise }
  clean : Text.Clean first.credentials.clientSecret

namespace Client.Disguised

variable {disguise : String → String} {first second : Client}

theorem credentials (hidden : first.Disguised disguise second) :
    second.credentials = first.credentials.disguised disguise := by
  rw [hidden.same]

/-- Both clients hold the same token from now on. -/
theorem withToken (hidden : first.Disguised disguise second) (token : Option Token) :
    Client.Disguised disguise { first with token } { second with token } :=
  ⟨by rw [hidden.same], hidden.clean⟩

/-- Both clients use credentials, or neither of them does. -/
theorem uses_eq (hidden : first.Disguised disguise second) (apart : TellsApart disguise)
    {asked : Credentials} (clean : Text.Clean asked.clientSecret) :
    second.uses (asked.disguised disguise) = first.uses asked := by
  have same := Credentials.disguised_eq_iff apart hidden.clean clean
  rw [uses, uses, hidden.credentials, Bool.eq_iff_iff, beq_iff_eq, beq_iff_eq]
  exact same

end Client.Disguised

/-- Clients at the same work, the second one with its secret in a disguise. -/
structure ClientWork.Disguised (disguise : String → String) (alike : ω → τ → Prop)
    (first : ClientWork ω) (second : ClientWork τ) : Prop where
  client : first.client.Disguised disguise second.client
  network : alike first.network second.network

namespace Client

section Calling

variable {disguise : String → String} {alike : ω → τ → Prop} {network : Http.Network ω}
  {other : Http.Network τ}

/-- The secret of a token request is where it authorizes itself. -/
theorem tokenRequest_redacted (credentials rival : Credentials) (url : Url) :
    (tokenRequest credentials url).redacted = (tokenRequest rival url).redacted := by
  unfold tokenRequest Http.Request.to
  cases Http.userinfo? url <;>
    simp [Http.Request.redacted, Http.Request.blankAuthorization]

/-- An address has nothing to do with the client. -/
theorem endpoint_alike (works : ClientWork ω → ClientWork τ → Prop) (base : Url)
    (path : List String) : Stateful.Alike works (endpoint base path) (endpoint base path) := by
  unfold endpoint
  split
  · exact .pure _
  · exact .throw _

/-- An answer is read without the client. -/
theorem readAnswer_alike (works : ClientWork ω → ClientWork τ → Prop) (codec : Json.Codec α)
    (response : Http.Response) :
    Stateful.Alike works (readAnswer codec response) (readAnswer codec response) := by
  unfold readAnswer
  split
  · exact .pure _
  · exact .throw _

variable (networks : network.Alike alike other)
include networks

theorem readClock_alike :
    Stateful.Alike (ClientWork.Disguised disguise alike) (readClock network)
      (readClock other) := by
  apply Stateful.Alike.modifyGet
  intro work rival works
  obtain ⟨told, ended⟩ := networks.now work.network rival.network works.network
  exact ⟨told, works.client, ended⟩

/-- Requests that do not differ otherwise are answered alike. -/
theorem send_alike (stage : String) {request rival : Http.Request}
    (same : request.redacted = rival.redacted) :
    Stateful.Alike (ClientWork.Disguised disguise alike) (send network stage request)
      (send other stage rival) := by
  have url : request.url = rival.url := by
    rw [← request.redacted_url, same, rival.redacted_url]
  unfold send
  rw [url]
  split
  · refine .bind (.modifyGet fun work rivalWork works => ?_) fun delivery => ?_
    · obtain ⟨told, ended⟩ := networks.deliver request rival work.network rivalWork.network same
        works.network
      exact ⟨told, works.client, ended⟩
    · cases delivery with
      | answered response => exact .pure _
      | unanswered => exact .throw _
      | cut => exact .throw _
  · exact .throw _

/-- A token is held in both clients, until the same time. -/
theorem heldToken_alike :
    Stateful.Alike (ClientWork.Disguised disguise alike) (heldToken? network)
      (heldToken? other) := by
  apply Stateful.Alike.get_bind
  intro work rival works
  have token : rival.client.token = work.client.token := by rw [works.client.same]
  rw [token]
  cases work.client.token with
  | none => exact .pure _
  | some token => exact .bind (readClock_alike networks) fun now => .pure _

/-- Both clients are granted the same token. -/
theorem newToken_alike (base : Url) :
    Stateful.Alike (ClientWork.Disguised disguise alike) (newToken network base)
      (newToken other base) := by
  refine .bind (endpoint_alike _ base _) fun url => .get_bind fun work rival works =>
    .bind (send_alike networks _ (tokenRequest_redacted _ _ url)) fun response =>
      .bind (readAnswer_alike _ _ response) fun grant =>
        .bind (readClock_alike networks) fun now => ?_
  cases now.after? grant.useSeconds with
  | none => exact .throw _
  | some refreshAt =>
      refine .bind (.modifyGet fun work rival works => ?_) fun _ => .pure _
      exact ⟨rfl, works.client.withToken _, works.network⟩

theorem accessToken_alike (base : Url) :
    Stateful.Alike (ClientWork.Disguised disguise alike) (accessToken network base)
      (accessToken other base) := by
  apply Stateful.Alike.bind (heldToken_alike networks)
  intro held
  cases held with
  | some token => exact .pure _
  | none => exact newToken_alike networks base

/-- A call ends alike for both clients. -/
theorem perform_alike (base : Url) (call : Call) :
    Stateful.Alike (ClientWork.Disguised disguise alike) (perform network base call)
      (perform other base call) := by
  refine .bind (endpoint_alike _ base _) fun url =>
    .bind (accessToken_alike networks base) fun token => ?_
  split
  · exact .bind (send_alike networks _ rfl) fun response => readAnswer_alike _ _ response
  · exact .throw _

/-- A call is replied to alike for both clients. -/
theorem reply_alike (base : Url) (call : Call) {work : ClientWork ω} {rival : ClientWork τ}
    (works : work.Disguised disguise alike rival) :
    (reply network base call work).1 = (reply other base call rival).1 ∧
      (reply network base call work).2.Disguised disguise alike
        (reply other base call rival).2 := by
  obtain ⟨told, ended⟩ := perform_alike networks base call work rival works
  unfold reply
  rcases ran : (perform network base call).run work with ⟨result, later⟩
  rcases beside : (perform other base call).run rival with ⟨same, behind⟩
  rw [ran, beside] at told ended
  obtain rfl : result = same := told
  cases result with
  | ok answer => exact ⟨rfl, ended⟩
  | error failure => cases failure <;> exact ⟨rfl, ended⟩

end Calling

end Client

/-- Caches of the same clients, in the second one with their secrets in a disguise. -/
structure ClientCache.Disguised (disguise : String → String) (first second : ClientCache) :
    Prop where
  clients : ∀ account,
    Option.Rel (Client.Disguised disguise) (first.find? account) (second.find? account)
  made : second.made = first.made

namespace ClientCache

variable {disguise : String → String} {first second : ClientCache}

/-- Empty caches hold no secret. -/
theorem Disguised.empty : ClientCache.empty.Disguised disguise .empty :=
  ⟨fun _ => .none, rfl⟩

theorem Disguised.put (caches : first.Disguised disguise second) {client rival : Client}
    (hidden : client.Disguised disguise rival) :
    (first.put client).Disguised disguise (second.put rival) := by
  refine ⟨fun account => ?_, caches.made⟩
  have account_eq : rival.credentials.account = client.credentials.account := by
    rw [hidden.same]
    rfl
  rw [find_put, find_put, account_eq]
  split
  · exact .some hidden
  · exact caches.clients account

variable {alike : ω → τ → Prop} {network : Http.Network ω} {other : Http.Network τ}

/-- What comes of asking for a client, the second time with its secret in a disguise. -/
inductive FoundDisguised (disguise : String → String) :
    Except OperatorError Client → Except OperatorError Client → Prop
  | failed (error : OperatorError) : FoundDisguised disguise (.error error) (.error error)
  | found {client rival : Client} (hidden : client.Disguised disguise rival) :
      FoundDisguised disguise (.ok client) (.ok rival)

variable (networks : network.Alike alike other) {asked : Credentials}
  (clean : Text.Clean asked.clientSecret)
include networks clean

/-- A client is made in both caches or in none. -/
theorem make_disguised (caches : first.Disguised disguise second) {state : ω} {rival : τ}
    (states : alike state rival) :
    let made := make network asked first state
    let beside := make other (asked.disguised disguise) second rival
    FoundDisguised disguise made.1 beside.1 ∧ made.2.1.Disguised disguise beside.2.1 ∧
      alike made.2.2 beside.2.2 := by
  obtain ⟨told, ended⟩ := networks.openPool state rival states
  unfold make
  rcases opened : network.openPool state with ⟨result, later⟩
  rcases beside : other.openPool rival with ⟨same, behind⟩
  rw [opened, beside] at told ended
  obtain rfl : result = same := told
  cases result with
  | error detail => exact ⟨.failed _, caches, ended⟩
  | ok _ =>
      have hidden : (Client.fresh first.made asked).Disguised disguise
          (.fresh second.made (asked.disguised disguise)) :=
        ⟨by rw [caches.made]; rfl, clean⟩
      have kept := caches.put hidden
      exact ⟨.found hidden, ⟨kept.clients, congrArg (· + 1) caches.made⟩, ended⟩

/-- A client is used again in both caches or in none, as no two secrets have the same disguise. -/
theorem obtain_disguised (apart : TellsApart disguise) (caches : first.Disguised disguise second)
    {state : ω} {rival : τ} (states : alike state rival) :
    let obtained := obtain network asked first state
    let beside := obtain other (asked.disguised disguise) second rival
    FoundDisguised disguise obtained.1 beside.1 ∧ obtained.2.1.Disguised disguise beside.2.1 ∧
      alike obtained.2.2 beside.2.2 := by
  have held := caches.clients asked.account
  have made := make_disguised networks clean caches states
  unfold obtain
  rw [Credentials.disguised_account]
  generalize first.find? asked.account = found, second.find? asked.account = same at held ⊢
  cases held with
  | none => exact made
  | some hidden =>
      dsimp only
      rw [hidden.uses_eq apart clean]
      split
      · exact ⟨.found hidden, caches, states⟩
      · exact made

end ClientCache

end OrgFederation

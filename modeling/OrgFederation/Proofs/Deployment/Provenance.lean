import OrgFederation.Deployment
import OrgFederation.Proofs.Account.Cache
import OrgFederation.Proofs.Account.Exchanges
import OrgFederation.Proofs.Pass.Course
import OrgFederation.Proofs.Reconciliation.Ends

namespace OrgFederation

variable {ω : Type}

/-- The credentials in the secret that a resource refers to, if the cluster hands them out. -/
def Cluster.credentialsFor (cluster : Cluster) (resource : FederatedAuth) : Option Credentials :=
  let reference := resource.spec.connectionSecretRef
  let namespaceName := reference.namespaceWithin (resource.metadata.namespaceName.getD "")
  match (cluster.readSecret namespaceName reference.name).1 with
  | .ok (some data) => (Credentials.ofSecret data).toOption
  | _ => none

namespace Deployment

/-- A deployment over a network that notes its requests. -/
abbrev Noted (ω : Type) : Type := Deployment (ω × List Http.Exchange)

/-- A reconciliation to come, and what happens to the cluster before it. -/
structure Turn where
  edit : Cluster → Cluster
  resource : FederatedAuth
  intervals : Intervals
  now : Timestamp
  cancelled : Bool

/-- What a reconciliation leaves on record: the credentials in the secret of its resource, whether
it was connected with them, its calls and the requests that were sent for them. -/
structure Visit where
  secret? : Option Credentials
  connected : Bool
  calls : List Call
  exchanges : List Http.Exchange

/-- The credentials with which a reconciliation was connected. -/
def Visit.credentials? (visit : Visit) : Option Credentials :=
  if visit.connected then visit.secret? else none

/-- A turn finds the cluster changed, and nothing noted. -/
def found (turn : Turn) (deployment : Deployment ω) : Noted ω :=
  ⟨turn.edit deployment.cluster, deployment.cache, (deployment.network, [])⟩

/-- A reconciliation with its record, and the deployment behind it. -/
def visit (network : Http.Network ω) (base : Url) (turn : Turn) (deployment : Deployment ω) :
    Visit × Deployment ω :=
  let surroundings := Deployment.surroundings network.recorded base
  let start := found turn deployment
  let done := reconcile surroundings turn.intervals turn.now turn.resource turn.cancelled start
  let connected := turn.resource.metadata.namespaceName.isSome && turn.resource.spec.isEnabled &&
    (surroundings.connect turn.resource start).1.result.isOk
  (⟨start.cluster.credentialsFor turn.resource, connected, done.calls, done.state.network.2⟩,
    ⟨done.state.cluster, done.state.cache, done.state.network.1⟩)

/-- Reconciliations with their records, one after the other. -/
def visits (network : Http.Network ω) (base : Url) : List Turn → Deployment ω → List Visit
  | [], _ => []
  | turn :: rest, deployment =>
      let (visit, later) := visit network base turn deployment
      visit :: visits network base rest later

/-- A token was granted for credentials in one of some reconciliations, and in none since then was
their account connected with others. -/
def GrantedIn (past : List Visit) (credentials : Credentials) (token : String) : Prop :=
  ∃ before visit since, past = before ++ visit :: since ∧ visit.credentials? = some credentials ∧
    Http.GrantedBy visit.exchanges credentials token ∧
    ∀ other ∈ since, ∀ found, other.credentials? = some found →
      found.account = credentials.account → found = credentials

/-- A token was granted for credentials, in an earlier reconciliation or by an earlier exchange of
the same one. -/
def Granted (past : List Visit) (earlier : List Http.Exchange) (credentials : Credentials)
    (token : String) : Prop :=
  GrantedIn past credentials token ∨ Http.GrantedBy earlier credentials token

/-- A request on behalf of credentials asks for a token with them, or it is one of the calls that
are made, with a token that was granted for just them. -/
def OnBehalf (base : Url) (past : List Visit) (credentials : Credentials) (calls : List Call)
    (earlier : List Http.Exchange) (request : Http.Request) : Prop :=
  (∃ url, request = Client.tokenRequest credentials url) ∨
    ∃ call ∈ calls, ∃ url token, base.below? call.path = some url ∧
      request = Client.callRequest call url token ∧
      ("authorization", Http.bearerValue token) ∈ request.headers ∧
      Granted past earlier credentials token

/-- A reconciliation behind others keeps to the credentials of its secret. -/
structure Visit.Loyal (base : Url) (past : List Visit) (visit : Visit) : Prop where
  calls : ∀ call ∈ visit.calls, ∃ credentials, visit.credentials? = some credentials ∧
    ∀ org, call.orgId? = some org → org = credentials.orgId
  requests : ∀ earlier exchange later, visit.exchanges = earlier ++ exchange :: later →
    ∃ credentials, visit.credentials? = some credentials ∧
      OnBehalf base past credentials visit.calls earlier exchange.request

section Connecting

/-- Obtaining a client sends no request. -/
theorem obtain_noted (network : Http.Network ω) (asked : Credentials) (cache : ClientCache)
    (state : ω × List Http.Exchange) :
    (cache.obtain network.recorded asked state).2.2.2 = state.2 := by
  have made : (cache.make network.recorded asked state).2.2.2 = state.2 := by
    rw [ClientCache.make]
    simp only [Http.Network.recorded]
    cases (network.openPool state.1).1 <;> rfl
  rw [ClientCache.obtain]
  cases cache.find? asked.account with
  | none => exact made
  | some client =>
      dsimp only
      split
      · rfl
      · exact made

/-- A resource has a client for the credentials in its secret, or the cache is as it was. -/
theorem client_cases (network : Http.Network ω) (resource : FederatedAuth)
    (deployment : Noted ω) :
    let done := client network.recorded resource deployment
    done.2.network.2 = deployment.network.2 ∧
      ((∃ error, done.1 = .error error ∧ done.2.cache = deployment.cache) ∨
        ∃ client, done.1 = .ok client ∧
          deployment.cluster.credentialsFor resource = some client.credentials ∧
          deployment.cache.Obtained client.credentials client done.2.cache) := by
  intro done
  simp only [done, client, Cluster.credentialsFor]
  split
  · exact ⟨rfl, .inl ⟨_, rfl, rfl⟩⟩
  · rcases deployment.cluster.readSecret (resource.spec.connectionSecretRef.namespaceWithin
      (resource.metadata.namespaceName.getD "")) resource.spec.connectionSecretRef.name
      with ⟨read, cluster⟩
    cases read with
    | error cause => exact ⟨rfl, .inl ⟨_, rfl, rfl⟩⟩
    | ok kept =>
        cases kept with
        | none => exact ⟨rfl, .inl ⟨_, rfl, rfl⟩⟩
        | some data =>
            dsimp only
            cases given : Credentials.ofSecret data with
            | error problem => exact ⟨rfl, .inl ⟨_, rfl, rfl⟩⟩
            | ok credentials =>
                refine ⟨obtain_noted network credentials deployment.cache deployment.network, ?_⟩
                rcases ClientCache.obtain_cases network.recorded credentials deployment.cache
                  deployment.network with ⟨error, failed, kept⟩ | ⟨client, succeeded, obtained⟩
                · exact .inl ⟨error, failed, kept⟩
                · have own := obtained.credentials
                  subst own
                  exact .inr ⟨client, succeeded, rfl, obtained⟩

end Connecting

section Visiting

/-- A reconciliation comes to no connection, sends nothing and changes no client, or it runs a pass
with the client that it obtained for the credentials in the secret. -/
theorem visit_cases (network : Http.Network ω) (base : Url) (turn : Turn)
    (deployment : Deployment ω) :
    let ran := visit network base turn deployment
    (ran.1.connected = false ∧ ran.1.calls = [] ∧ ran.1.exchanges = [] ∧
        ran.2.cache = deployment.cache) ∨
      ∃ (client : Client) (start : Noted ω) (cancelled : Bool),
        ran.1.credentials? = some client.credentials ∧
        deployment.cache.Obtained client.credentials client start.cache ∧
        start.network.2 = [] ∧
        let done := Pass.run (remote network.recorded base client) turn.resource.spec
          client.credentials.orgId (Trace.start start cancelled)
        ran.1.calls = done.2.calls ∧ ran.2.cache = done.2.state.cache ∧
          ran.1.exchanges = done.2.state.network.2 := by
  intro ran
  have ends := Reconciliation.ends (surroundings network.recorded base) turn.intervals turn.now
    turn.resource turn.cancelled (found turn deployment)
  have calls := ends.calls
  -- A status patch touches neither the clients nor the network: both are as the pass left them.
  have kept := ends.view (fun state => (state.cache, state.network.2)) fun _ _ => rfl
  cases placed : turn.resource.metadata.namespaceName with
  | none =>
      rw [if_pos placed] at calls kept
      exact .inl ⟨by simp [ran, visit, placed], calls, (Prod.mk.inj kept).2, (Prod.mk.inj kept).1⟩
  | some namespaceName =>
      rw [if_neg (by simp [placed])] at calls kept
      cases enabled : turn.resource.spec.isEnabled with
      | false =>
          have disabled := Reconciliation.pass_disabled (surroundings network.recorded base)
            (Trace.start (found turn deployment) turn.cancelled) enabled
          rw [Reconciliation.passed, disabled] at calls kept
          exact .inl ⟨by simp [ran, visit, enabled], calls, (Prod.mk.inj kept).2,
            (Prod.mk.inj kept).1⟩
      | true =>
          have connecting : ((surroundings network.recorded base).connect turn.resource
              (found turn deployment)).1.result =
              (client network.recorded turn.resource (found turn deployment)).1.map fun client =>
                ⟨client.credentials.orgId, remote network.recorded base client⟩ := rfl
          obtain ⟨unsent, ⟨error, failed, cache⟩ | ⟨client, succeeded, secret, obtained⟩⟩ :=
            client_cases network turn.resource (found turn deployment)
          · rw [failed] at connecting
            have behind : (Reconciliation.pass _ _
                (Trace.start (found turn deployment) turn.cancelled)).2 = _ :=
              Reconciliation.pass_trace_of_error enabled connecting
            rw [Reconciliation.passed, behind] at calls kept
            have unconnected : ran.1.connected = false := by
              simp only [ran, visit, placed, enabled]
              rw [connecting]
              rfl
            exact .inl ⟨unconnected, calls, (Prod.mk.inj kept).2.trans unsent,
              (Prod.mk.inj kept).1.trans cache⟩
          · rw [succeeded] at connecting
            have passes : Reconciliation.pass _ _
                (Trace.start (found turn deployment) turn.cancelled) = _ :=
              Reconciliation.pass_connected enabled connecting
            rw [Reconciliation.passed, passes] at calls kept
            have connected : ran.1.credentials? = some client.credentials := by
              simp only [ran, visit, Visit.credentials?, placed, enabled]
              rw [connecting]
              exact secret
            exact .inr ⟨client, _, _, connected, obtained, unsent, calls, (Prod.mk.inj kept).1,
              (Prod.mk.inj kept).2⟩

end Visiting

section Calling

variable {base : Url} {past : List Visit} {credentials : Credentials} {cache : ClientCache}
  {state : Noted ω} {calls : List Call}

/-- A token that was granted stays so behind more exchanges. -/
theorem Granted.further {earlier : List Http.Exchange} {token : String}
    (granted : Granted past earlier credentials token) (more : List Http.Exchange) :
    Granted past (earlier ++ more) credentials token :=
  granted.imp_right fun granted => granted.append_left more

/-- A request on behalf of credentials is one of more calls, too. -/
theorem OnBehalf.among {more : List Call} {earlier : List Http.Exchange} {request : Http.Request}
    (own : OnBehalf base past credentials calls earlier request) :
    OnBehalf base past credentials (calls ++ more) earlier request := by
  rcases own with asks | ⟨call, member, sent⟩
  · exact .inl asks
  · exact .inr ⟨call, List.mem_append_left _ member, sent⟩

/-- The request of a call carries its token. -/
theorem bearer_of_call (call : Call) (url : Url) (token : String) :
    ("authorization", Http.bearerValue token) ∈
      (Client.callRequest call url token).headers := by
  have named (method : Http.Method) (headers : Http.Headers) (body : String)
      (member : ("authorization", Http.bearerValue token) ∈ headers) :
      ("authorization", Http.bearerValue token) ∈
        (Http.Request.to method url headers body).headers := by
    rw [Http.Request.to]
    split
    · exact List.mem_cons_of_mem _ (List.mem_cons_of_mem _ member)
    · exact List.mem_cons_of_mem _ member
  rw [Client.callRequest]
  split <;> exact named _ _ _ (by simp)

/-- A deployment in the middle of a pass with some credentials, behind some calls. Their account has
a client that uses just them, its token is granted for them, and so is every token that was sent.
The clients of the other accounts are those that were cached before the pass. -/
structure Serving (base : Url) (past : List Visit) (credentials : Credentials) (cache : ClientCache)
    (calls : List Call) (state : Noted ω) : Prop where
  client : ∃ client, state.cache.find? credentials.account = some client ∧
    client.credentials = credentials ∧ ∀ token, client.token = some token →
      Granted past state.network.2 credentials token.value
  others : ∀ account, account ≠ credentials.account →
    state.cache.find? account = cache.find? account
  requests : ∀ earlier exchange later, state.network.2 = earlier ++ exchange :: later →
    OnBehalf base past credentials calls earlier exchange.request

/-- A call of the pass keeps the deployment so. -/
theorem Serving.call (serving : Serving base past credentials cache calls state)
    (network : Http.Network ω) {client : Client} (own : client.credentials = credentials)
    (call : Call) :
    Serving base past credentials cache (calls ++ [call])
      ((remote network.recorded base client).next call state) := by
  obtain ⟨held, cached, uses, granted⟩ := serving.client
  obtain ⟨asked, progress, proper⟩ :=
    Client.reply_progress network base call ⟨held, state.network⟩
  rcases replied : Client.reply network.recorded base call ⟨held, state.network⟩ with ⟨reply, work⟩
  rw [replied] at progress
  have next : (remote network.recorded base client).next call state =
      { state with cache := state.cache.put work.client, network := work.network } := by
    simp only [Remote.next, remote, own, cached, Option.getD_some, replied]
  have kept : work.client.credentials = credentials := progress.credentials.trans uses
  have noted : work.network.2 = state.network.2 ++ asked := progress.exchanges
  rw [next]
  -- Whatever the client learned, it is put back under its own account, that of the pass.
  refine ⟨⟨work.client, ?_, kept, fun token holds => ?_⟩, fun account other => ?_, ?_⟩
  · exact (state.cache.find_put work.client credentials.account).trans (if_pos (by rw [kept]))
  · dsimp only
    rw [noted]
    rcases progress.token token holds with before | fresh
    · exact (granted token before).further asked
    · exact .inr (uses ▸ fresh.append_right state.network.2)
  · refine (state.cache.find_put work.client account).trans ?_
    rw [if_neg (by rwa [kept]), serving.others account other]
  · dsimp only
    rw [noted]
    intro earlier exchange later divided
    rcases divided_append divided with ⟨behind, among⟩ | ⟨between, rfl, same⟩
    · exact (serving.requests earlier exchange behind among).among
    · rcases proper between exchange later same with
        ⟨url, asks⟩ | ⟨url, token, named, sent, source⟩
      · exact .inl ⟨url, uses ▸ asks⟩
      · have carried := bearer_of_call call url token
        refine .inr ⟨call, by simp, url, token, named, sent, sent ▸ carried, ?_⟩
        rcases source with ⟨refreshAt, holds⟩ | fresh
        · exact (granted _ holds).further between
        · exact .inr (uses ▸ fresh.append_right state.network.2)

/-- So do all calls of a pass. -/
theorem Serving.follow (network : Http.Network ω) {client : Client}
    (own : client.credentials = credentials) (trace : Trace (Noted ω))
    (serving : Serving base past credentials cache calls trace.state) (made : List Call) :
    Serving base past credentials cache (calls ++ made)
      ((remote network.recorded base client).follow trace made).state := by
  induction made generalizing calls trace with
  | nil =>
      rw [List.append_nil]
      exact serving
  | cons call rest ih =>
      have further := ih ((remote network.recorded base client).after trace call)
        (serving.call network own call)
      rw [List.append_assoc] at further
      exact further

/-- A pass with some credentials keeps the deployment so, and its calls name no other organization
than theirs. -/
theorem Serving.pass (network : Http.Network ω) {client : Client}
    (own : client.credentials = credentials)
    (serving : Serving base past credentials cache [] state) (spec : Spec) (cancelled : Bool) :
    let done := Pass.run (remote network.recorded base client) spec credentials.orgId
      (Trace.start state cancelled)
    Serving base past credentials cache done.2.calls done.2.state ∧
      ∀ call ∈ done.2.calls, ∀ org, call.orgId? = some org → org = credentials.orgId := by
  intro done
  obtain ⟨made, calls, behind, _⟩ := (Pass.run_proceeds (remote network.recorded base client) spec
    credentials.orgId (Trace.start state cancelled)).follows
  have same : done.2.calls = made := calls
  refine ⟨?_, Pass.calls_within _ _ _ _ _⟩
  rw [same, show done.2 = _ from behind]
  exact serving.follow network own (Trace.start state cancelled) made

end Calling

section Rotation

variable {base : Url} {past : List Visit} {credentials : Credentials} {token : String}

/-- A token stays granted when no reconciliation connects its account with other credentials. -/
theorem GrantedIn.kept (granted : GrantedIn past credentials token) {visit : Visit}
    (same : ∀ found, visit.credentials? = some found → found.account = credentials.account →
      found = credentials) : GrantedIn (past ++ [visit]) credentials token := by
  obtain ⟨before, source, since, rfl, connected, exchanged, unrotated⟩ := granted
  refine ⟨before, source, since ++ [visit], by simp, connected, exchanged, ?_⟩
  intro other member
  rcases List.mem_append.mp member with earlier | last
  · exact unrotated other earlier
  · rw [List.mem_singleton.mp last]
    exact same

/-- A token that is granted in the last reconciliation is granted. -/
theorem GrantedIn.last {visit : Visit} (connected : visit.credentials? = some credentials)
    (granted : Http.GrantedBy visit.exchanges credentials token) :
    GrantedIn (past ++ [visit]) credentials token :=
  ⟨past, visit, [], rfl, connected, granted, by simp⟩

/-- Every client is cached for its own account, and the token that it holds was granted for just its
credentials. -/
def Accounted (past : List Visit) (cache : ClientCache) : Prop :=
  ∀ account client, cache.find? account = some client →
    client.credentials.account = account ∧
      ∀ token, client.token = some token → GrantedIn past client.credentials token.value

/-- A reconciliation that is not connected sends nothing and changes no client. -/
theorem quiet_visit {visit : Visit} {cache : ClientCache} (unconnected : visit.connected = false)
    (calls : visit.calls = []) (exchanges : visit.exchanges = [])
    (accounted : Accounted past cache) :
    visit.Loyal base past ∧ Accounted (past ++ [visit]) cache := by
  refine ⟨⟨by simp [calls], by simp [exchanges]⟩, fun account client cached => ?_⟩
  obtain ⟨own, granted⟩ := accounted account client cached
  refine ⟨own, fun token held => (granted token held).kept fun found connected => ?_⟩
  simp [Visit.credentials?, unconnected] at connected

/-- A client that is obtained serves a pass from its start. -/
theorem Serving.obtained {cache : ClientCache} {state : Noted ω} {client : Client}
    (accounted : Accounted past cache)
    (obtained : cache.Obtained client.credentials client state.cache)
    (unsent : state.network.2 = []) :
    Serving base past client.credentials cache [] state := by
  refine ⟨⟨client, obtained.cached, rfl, fun token held => ?_⟩, obtained.others, by simp [unsent]⟩
  rcases obtained.known with before | fresh
  · exact .inl ((accounted _ client before).2 token held)
  · rw [fresh] at held
    cases held

/-- A reconciliation that is connected keeps to its credentials, and behind it every client does. -/
theorem serving_visit {cache : ClientCache} {state : Noted ω} {visit : Visit}
    (accounted : Accounted past cache)
    (serving : Serving base past credentials cache visit.calls state)
    (connected : visit.credentials? = some credentials)
    (exchanges : visit.exchanges = state.network.2)
    (within : ∀ call ∈ visit.calls, ∀ org, call.orgId? = some org → org = credentials.orgId) :
    visit.Loyal base past ∧ Accounted (past ++ [visit]) state.cache := by
  refine ⟨⟨fun call member => ⟨credentials, connected, within call member⟩, ?_⟩, ?_⟩
  · rw [exchanges]
    exact fun earlier exchange later divided =>
      ⟨credentials, connected, serving.requests earlier exchange later divided⟩
  · intro account client cached
    by_cases own : account = credentials.account
    · obtain ⟨held, found, uses, granted⟩ := serving.client
      rw [own, found] at cached
      obtain rfl := Option.some.inj cached
      refine ⟨by rw [uses, own], fun token holds => ?_⟩
      rw [uses]
      rcases granted token holds with earlier | fresh
      · refine earlier.kept fun found same _ => ?_
        rw [connected] at same
        exact (Option.some.inj same).symm
      · exact .last connected (exchanges ▸ fresh)
    · -- A client of another account is not touched, and its tokens were not rotated away.
      rw [serving.others account own] at cached
      obtain ⟨kept, granted⟩ := accounted account client cached
      refine ⟨kept, fun token holds => (granted token holds).kept fun found same shared => ?_⟩
      rw [connected] at same
      cases same
      exact absurd (kept.symm.trans shared.symm) own

/-- A reconciliation keeps to its credentials, and the clients behind it are accounted for. -/
theorem visit_step (network : Http.Network ω) (base : Url) (turn : Turn) (deployment : Deployment ω)
    (accounted : Accounted past deployment.cache) :
    let ran := visit network base turn deployment
    ran.1.Loyal base past ∧ Accounted (past ++ [ran.1]) ran.2.cache := by
  intro ran
  rcases visit_cases network base turn deployment with
    ⟨unconnected, calls, exchanges, cache⟩ |
    ⟨client, start, cancelled, connected, obtained, unsent, calls, cache, exchanges⟩
  · rw [cache]
    exact quiet_visit unconnected calls exchanges accounted
  · obtain ⟨serving, within⟩ := (Serving.obtained accounted obtained unsent).pass network rfl
      turn.resource.spec cancelled
    rw [cache]
    exact serving_visit accounted (calls ▸ serving) connected exchanges (calls ▸ within)

end Rotation

/-- Reconciliations behind others keep to their credentials. -/
theorem visits_loyal (network : Http.Network ω) (base : Url) (turns : List Turn)
    {past : List Visit} {deployment : Deployment ω} (accounted : Accounted past deployment.cache)
    {before after : List Visit} {visit : Visit}
    (divided : visits network base turns deployment = before ++ visit :: after) :
    visit.Loyal base (past ++ before) := by
  induction turns generalizing past deployment before with
  | nil => simp [visits] at divided
  | cons turn rest ih =>
      obtain ⟨loyal, further⟩ := visit_step network base turn deployment accounted
      rw [visits] at divided
      cases before with
      | nil =>
          obtain ⟨rfl, _⟩ := List.cons.inj divided
          rw [List.append_nil]
          exact loyal
      | cons first before =>
          obtain ⟨rfl, later⟩ := List.cons.inj divided
          have behind := ih further later
          rw [List.append_assoc] at behind
          exact behind

/-- In every run of reconciliations, whatever happens to the cluster in between and whatever the
network does, each reconciliation keeps to the credentials of its secret: its calls name their
organization, and its requests ask for tokens with just them or carry a token that was granted for
just them, since their account was last connected with others. -/
theorem tokens_follow_secrets (network : Http.Network ω) (base : Url) (turns : List Turn)
    (cluster : Cluster) (state : ω) {before after : List Visit} {visit : Visit}
    (divided : visits network base turns ⟨cluster, .empty, state⟩ = before ++ visit :: after) :
    visit.Loyal base before := by
  have empty : Accounted [] ClientCache.empty := fun _ _ cached => nomatch cached
  exact visits_loyal network base turns empty divided

/-- A turn that finds this client secret, in Base64, for the account of an organization. -/
def secretTurn (clientSecret : String) : Turn where
  edit _ := ⟨[(("team", "secret"), .kept (.object
    [("orgId", .string "b3Jn"), ("clientId", .string "aWQ="),
      ("clientSecret", .string clientSecret)]))], [], []⟩
  resource := ⟨⟨some "federation", none, some "team", some 1, []⟩,
    ⟨some true, ⟨"secret", none⟩, [], none, none, [], []⟩, none⟩
  intervals := .standard
  now := .ofSecond 0
  cancelled := false

/-- A server grants three tokens and closes the connection whenever one is used. -/
def grantingScript : Http.Script :=
  let granted (token : String) : Http.ScriptedAnswer :=
    .respond ⟨200, Text.Utf8.encode ("\x7b\"access_token\":\"" ++ token ++ "\"\x7d")⟩ false
  ⟨true, [granted "first", .close, granted "second", .close, granted "third", .close], [], ⟨0⟩⟩

def serviceUrl : Url :=
  ⟨"https", some ⟨[], .name "service".toList, none⟩, .rooted [[]], none, none⟩

/-- A secret that is rotated away and back gets a new token, not the one from before. -/
theorem tokens_follow_secrets_rotating :
    ∃ first second third : Visit,
      visits Http.Script.network serviceUrl
          [secretTurn "b2xk", secretTurn "bmV3", secretTurn "b2xk"]
          ⟨⟨[], [], []⟩, .empty, grantingScript⟩ = [first, second] ++ [third] ∧
        third.exchanges.map (·.request.header? "authorization") =
          [some (Http.basicValue "id" "old"), some (Http.bearerValue "third")] ∧
        third.Loyal serviceUrl [first, second] := by
  have divided : visits Http.Script.network serviceUrl
      [secretTurn "b2xk", secretTurn "bmV3", secretTurn "b2xk"]
      ⟨⟨[], [], []⟩, .empty, grantingScript⟩ = [_, _] ++ _ :: [] := rfl
  exact ⟨_, _, _, divided, by decide +kernel, tokens_follow_secrets _ _ _ _ _ divided⟩

end Deployment

end OrgFederation

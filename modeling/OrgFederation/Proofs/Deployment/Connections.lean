import OrgFederation.Proofs.Deployment.Provenance

namespace OrgFederation

variable {ω : Type}

/-- The account and the secret make up credentials. -/
theorem Credentials.eq_of_account {first second : Credentials}
    (account : first.account = second.account)
    (clientSecret : first.clientSecret = second.clientSecret) : first = second := by
  obtain ⟨orgId, clientId⟩ := Prod.mk.inj account
  cases first
  cases second
  simp_all

/-- What a client keeps through all its calls. -/
def Client.identity (client : Client) : Nat × Credentials :=
  (client.serial, client.credentials)

/-- A call changes no more of its client than the token. -/
theorem Client.reply_identity (network : Http.Network ω) (base : Url) (call : Call)
    (work : ClientWork ω) :
    (reply network base call work).2.client.identity = work.client.identity := by
  obtain ⟨_, _, _, _, ran, -, -⟩ := perform_takes network base call work
  rw [reply_state, ran]
  rfl

namespace ClientCache

/-- A cache holds each client under its own account, and no account twice. -/
structure Tidy (cache : ClientCache) : Prop where
  once : (cache.clients.map Prod.fst).Nodup
  own : ∀ entry ∈ cache.clients, entry.2.credentials.account = entry.1

theorem Tidy.empty : ClientCache.empty.Tidy :=
  ⟨List.nodup_nil, nofun⟩

/-- A client that is put takes the place of the one of its account. -/
theorem Tidy.put {cache : ClientCache} (tidy : cache.Tidy) (client : Client) :
    (cache.put client).Tidy := by
  constructor
  · show (client.credentials.account :: List.map Prod.fst (List.filter _ _)).Nodup
    rw [List.nodup_cons]
    constructor
    · simp
    · exact tidy.once.sublist (List.filter_sublist.map _)
  · intro entry listed
    rcases List.mem_cons.mp listed with rfl | before
    · rfl
    · exact tidy.own entry (List.mem_filter.mp before).1

/-- The client of an account is one for this account. -/
theorem Tidy.account {cache : ClientCache} (tidy : cache.Tidy) {account : String × String}
    {client : Client} (held : cache.find? account = some client) :
    client.credentials.account = account := by
  obtain ⟨before, behind, divided, -⟩ := List.lookup_eq_some_iff.mp held
  exact tidy.own (account, client) (by simp [divided])

end ClientCache

namespace Deployment

/-- What is done with the clients of a deployment: one is asked for, or one in the cache is called. -/
inductive Use where
  | connect (asked : Credentials)
  | call (account : String × String) (call : Call)

/-- A client that was asked for: the credentials, the cache before, whether a pool opens then, what
came of it, and the cache behind. -/
structure Connection where
  asked : Credentials
  before : ClientCache
  opened : Except String Unit
  result : Except OperatorError Client
  after : ClientCache

/-- The client that an account was given. -/
def Connection.client? (made : Connection) (account : String × String) : Option Client :=
  if made.asked.account = account then made.result.toOption else none

/-- The client that an account was given last. -/
def given? (past : List Connection) (account : String × String) : Option Client :=
  (past.filterMap fun made => made.client? account).getLast?

/-- A client for some credentials is asked for. -/
def connectFor (network : Http.Network ω) (asked : Credentials) (deployment : Deployment ω) :
    Connection × Deployment ω :=
  let opened := (network.openPool deployment.network).1
  let (result, cache, state) := deployment.cache.obtain network asked deployment.network
  (⟨asked, deployment.cache, opened, result, cache⟩, { deployment with cache, network := state })

/-- The client of an account is called, if there is one. -/
def callCached (network : Http.Network ω) (base : Url) (account : String × String) (call : Call)
    (deployment : Deployment ω) : Deployment ω :=
  match deployment.cache.find? account with
  | none => deployment
  | some client => ((remote network base client).reply call deployment).2

/-- The connections among some uses, one after the other. -/
def connections (network : Http.Network ω) (base : Url) :
    List Use → Deployment ω → List Connection
  | [], _ => []
  | .connect asked :: rest, deployment =>
      let (made, later) := connectFor network asked deployment
      made :: connections network base rest later
  | .call account call :: rest, deployment =>
      connections network base rest (callCached network base account call deployment)

/-- A connection does right by the ones before it: an account is given its client again when its
secret is the same, and a new one without a token when it is another one. -/
structure Connection.Rightful (past : List Connection) (made : Connection) : Prop where
  /-- The cache holds the clients that were given last. -/
  given : ∀ account, (made.before.find? account).map Client.identity =
    (given? past account).map Client.identity
  tidy : made.after.Tidy
  others : ∀ account, account ≠ made.asked.account →
    made.after.find? account = made.before.find? account
  /-- Only a pool that does not open is in the way of a client. -/
  failed : ∀ error, made.result = .error error → made.after = made.before ∧
    ∃ detail, made.opened = .error detail ∧ error = ClientCache.poolError detail
  obtained : ∀ client, made.result = .ok client →
    client.credentials = made.asked ∧ made.after.find? made.asked.account = some client
  /-- The client is given again with the token that it holds. -/
  again : ∀ previous, given? past made.asked.account = some previous →
    previous.credentials.clientSecret = made.asked.clientSecret →
    ∃ client, made.result = .ok client ∧ client.serial = previous.serial ∧
      made.before.find? made.asked.account = some client
  /-- A new client has no token, and was not given to anyone before. -/
  anew : (∀ previous, given? past made.asked.account = some previous →
      previous.credentials.clientSecret ≠ made.asked.clientSecret) →
    ∀ client, made.result = .ok client → client.token = none ∧
      ∀ earlier ∈ past, ∀ other, earlier.result = .ok other → other.serial ≠ client.serial

/-- What the cache has of some connections: the clients that were given last. -/
structure Accords (past : List Connection) (cache : ClientCache) : Prop where
  tidy : cache.Tidy
  given : ∀ account, (cache.find? account).map Client.identity =
    (given? past account).map Client.identity
  older : ∀ made ∈ past, ∀ client, made.result = .ok client → client.serial < cache.made

theorem Accords.start : Accords [] .empty :=
  ⟨.empty, fun _ => rfl, nofun⟩

theorem given_concat (past : List Connection) (made : Connection) (account : String × String) :
    given? (past ++ [made]) account = (made.client? account).or (given? past account) :=
  getLast_filterMap_concat _ past made

/-- A client in the cache may go on with another token. -/
theorem Accords.put {past : List Connection} {cache : ClientCache} (accords : Accords past cache)
    {account : String × String} {client later : Client} (held : cache.find? account = some client)
    (kept : later.identity = client.identity) : Accords past (cache.put later) := by
  have own : later.credentials.account = account := by
    rw [← accords.tidy.account held]
    exact congrArg (fun identity => identity.2.account) kept
  refine ⟨accords.tidy.put later, fun other => ?_, accords.older⟩
  rw [cache.find_put, own, ← accords.given other]
  split
  · next same =>
      subst same
      rw [held]
      exact congrArg some kept
  · rfl

/-- A call changes no more of a client than the token. -/
theorem Accords.called {past : List Connection} {deployment : Deployment ω}
    (accords : Accords past deployment.cache) (network : Http.Network ω) (base : Url)
    (account : String × String) (call : Call) :
    Accords past (callCached network base account call deployment).cache := by
  rw [callCached]
  cases held : deployment.cache.find? account with
  | none => exact accords
  | some client =>
      dsimp only [remote]
      rw [accords.tidy.account held, held, Option.getD_some]
      exact accords.put held (Client.reply_identity network base call _)

section

variable {past : List Connection} {asked : Credentials} {cache later : ClientCache}
  {opened : Except String Unit} {result : Except OperatorError Client}

/-- The client of an account is the one that was given last. -/
theorem Accords.previous (accords : Accords past cache) {account : String × String}
    {client : Client} (held : cache.find? account = some client) :
    ∃ previous, given? past account = some previous ∧ previous.identity = client.identity := by
  have given := accords.given account
  rw [held] at given
  exact Option.map_eq_some_iff.mp given.symm

/-- The client that was given last is the one of its account. -/
theorem Accords.current (accords : Accords past cache) {account : String × String}
    {previous : Client} (given : given? past account = some previous) :
    ∃ client, cache.find? account = some client ∧ client.identity = previous.identity := by
  have held := accords.given account
  rw [given] at held
  exact Option.map_eq_some_iff.mp held

/-- What an account was given last came of a connection. -/
theorem exists_of_given {account : String × String} {previous : Client}
    (given : given? past account = some previous) : ∃ made ∈ past, made.result = .ok previous := by
  obtain ⟨made, listed, same⟩ := List.mem_filterMap.mp (List.mem_of_getLast? given)
  rw [Connection.client?] at same
  split at same
  · cases ended : made.result with
    | error error =>
        rw [ended] at same
        cases same
    | ok client =>
        rw [ended] at same
        cases same
        exact ⟨made, listed, ended⟩
  · cases same

/-- No client of the cache is used when its account was given one with another secret, or none. -/
theorem Accords.unused_iff (accords : Accords past cache) :
    cache.Unused asked ↔ ∀ previous, given? past asked.account = some previous →
      previous.credentials.clientSecret ≠ asked.clientSecret := by
  constructor
  · intro unused previous given same
    obtain ⟨client, held, identity⟩ := accords.current given
    have own := accords.tidy.account held
    have secret : client.credentials.clientSecret = asked.clientSecret :=
      (congrArg (fun identity => identity.2.clientSecret) identity).trans same
    exact unused client held (Credentials.eq_of_account own secret)
  · intro apart client held uses
    obtain ⟨previous, given, identity⟩ := accords.previous held
    have secret : previous.credentials.clientSecret = client.credentials.clientSecret :=
      congrArg (fun identity => identity.2.clientSecret) identity
    exact apart previous given (by rw [secret, uses])

/-- A connection does right by the ones that a cache accords with. -/
theorem Accords.rightful (accords : Accords past cache)
    (obtains : cache.Obtains asked opened result later) :
    Connection.Rightful past ⟨asked, cache, opened, result, later⟩ := by
  cases obtains with
  | @again client held uses =>
      -- The account was given this client last, so that any other secret contradicts.
      constructor
      case given => exact accords.given
      case tidy => exact accords.tidy
      case others => exact fun _ _ => rfl
      case failed => exact nofun
      case obtained =>
        intro other same
        cases same
        exact ⟨uses, held⟩
      case again =>
        intro previous given secret
        obtain ⟨current, found, identity⟩ := accords.current given
        cases held.symm.trans found
        exact ⟨client, rfl, congrArg Prod.fst identity, held⟩
      case anew => exact fun apart => absurd uses (accords.unused_iff.mpr apart client held)
  | failed unused shut =>
      have apart := accords.unused_iff.mp unused
      constructor
      case given => exact accords.given
      case tidy => exact accords.tidy
      case others => exact fun _ _ => rfl
      case failed =>
        intro error same
        cases same
        exact ⟨rfl, _, shut, rfl⟩
      case obtained => exact nofun
      case again => exact fun previous given secret => absurd secret (apart previous given)
      case anew => exact nofun
  | anew unused =>
      have apart := accords.unused_iff.mp unused
      have tidy := accords.tidy.put (.fresh cache.made asked)
      have found := cache.find_put (.fresh cache.made asked)
      constructor
      case given => exact accords.given
      case tidy => exact ⟨tidy.once, tidy.own⟩
      case others => exact fun account other => (found account).trans (if_neg other)
      case failed => exact nofun
      case obtained =>
        intro client same
        cases same
        exact ⟨rfl, (found asked.account).trans (if_pos rfl)⟩
      case again => exact fun previous given secret => absurd secret (apart previous given)
      case anew =>
        intro _ client same
        cases same
        refine ⟨rfl, fun earlier listed other ended => Nat.ne_of_lt ?_⟩
        exact accords.older earlier listed other ended

/-- No clients are unmade. -/
theorem made_le (obtains : cache.Obtains asked opened result later) : cache.made ≤ later.made := by
  cases obtains with
  | again held uses => exact Nat.le_refl _
  | failed unused shut => exact Nat.le_refl _
  | anew unused => exact Nat.le_succ _

/-- A client that is given has a number below those that come. -/
theorem Accords.serial_lt (accords : Accords past cache) {client : Client}
    (obtains : cache.Obtains asked opened (.ok client) later) : client.serial < later.made := by
  cases obtains with
  | again held uses =>
      obtain ⟨previous, given, identity⟩ := accords.previous held
      obtain ⟨giving, among, gave⟩ := exists_of_given given
      have serial : previous.serial = client.serial := congrArg Prod.fst identity
      rw [← serial]
      exact accords.older giving among previous gave
  | anew unused => exact Nat.lt_succ_self _

/-- The cache behind a connection accords with it, too. -/
theorem Accords.next (accords : Accords past cache) (obtains : cache.Obtains asked opened result later) :
    Accords (past ++ [⟨asked, cache, opened, result, later⟩]) later := by
  have rightful := accords.rightful obtains
  constructor
  case tidy => exact rightful.tidy
  case given =>
    intro account
    rw [given_concat, Connection.client?]
    split
    · next same =>
        subst same
        cases ended : result with
        | error error =>
            have same : later = cache := (rightful.failed error ended).1
            rw [same]
            exact accords.given asked.account
        | ok client =>
            have found : later.find? asked.account = some client :=
              (rightful.obtained client ended).2
            rw [found]
            rfl
    · next other =>
        have kept : later.find? account = cache.find? account :=
          rightful.others account fun same => other same.symm
        rw [kept]
        exact accords.given account
  case older =>
    intro made listed client ended
    rcases List.mem_append.mp listed with before | last
    · exact Nat.lt_of_lt_of_le (accords.older made before client ended) (made_le obtains)
    · cases List.mem_singleton.mp last
      cases ended
      exact accords.serial_lt obtains

end

/-- Connections do right by those before them, if the cache accords with those. -/
theorem connections_rightful (network : Http.Network ω) (base : Url) {uses : List Use}
    {deployment : Deployment ω} {past earlier later : List Connection} {made : Connection}
    (accords : Accords past deployment.cache)
    (split : connections network base uses deployment = earlier ++ made :: later) :
    made.Rightful (past ++ earlier) := by
  -- Calls between the connections keep the accord, and so does each connection.
  induction uses generalizing deployment past earlier with
  | nil => simp [connections] at split
  | cons use rest ih =>
      cases use with
      | call account call => exact ih (accords.called network base account call) split
      | connect asked =>
          have obtains :=
            ClientCache.obtain_obtains network asked deployment.cache deployment.network
          cases earlier with
          | nil =>
              obtain ⟨rfl, -⟩ := List.cons.inj split
              rw [List.append_nil]
              exact accords.rightful obtains
          | cons first earlier =>
              obtain ⟨rfl, behind⟩ := List.cons.inj split
              have further := ih (accords.next obtains) behind
              rwa [List.append_assoc] at further

/-- Whatever clients are asked for and called in a new deployment, each connection does right by the
ones before it. -/
theorem clients_follow_secrets (network : Http.Network ω) (base : Url) {uses : List Use}
    {cluster : Cluster} {state : ω} {earlier later : List Connection} {made : Connection}
    (split : connections network base uses ⟨cluster, .empty, state⟩ = earlier ++ made :: later) :
    made.Rightful earlier := by
  have start : Accords [] ClientCache.empty := .start
  exact connections_rightful network base start split

/-- An account is connected, called, and connected again with the same secret, another one, and the
first one, with another account in between. -/
def rotatingUses : List Use :=
  [.connect ⟨"org", "id", "old"⟩, .call ("org", "id") (.federationSettings "org"),
    .connect ⟨"org", "other", "old"⟩, .connect ⟨"org", "id", "old"⟩,
    .connect ⟨"org", "id", "new"⟩, .connect ⟨"org", "id", "old"⟩]

/-- The client and its token are given again, and a rotated secret gets another client, even when it
is rotated back. -/
theorem clients_follow_secrets_rotating : ∃ first second third fourth fifth,
    connections Http.Script.network serviceUrl rotatingUses
        ⟨⟨[], [], []⟩, .empty, grantingScript⟩ = [first, second, third, fourth] ++ fifth :: [] ∧
      [first, second, third, fourth, fifth].map (fun made => made.result.toOption.map fun client =>
          (client.serial, client.token.map Token.value)) =
        [some (0, none), some (1, none), some (0, some "first"), some (2, none), some (3, none)] ∧
      fifth.Rightful [first, second, third, fourth] := by
  have split : connections Http.Script.network serviceUrl rotatingUses
      ⟨⟨[], [], []⟩, .empty, grantingScript⟩ = [_, _, _, _] ++ _ :: [] := rfl
  exact ⟨_, _, _, _, _, split, by decide +kernel, clients_follow_secrets _ _ split⟩

end Deployment

end OrgFederation

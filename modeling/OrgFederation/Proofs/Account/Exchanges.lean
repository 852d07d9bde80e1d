import OrgFederation.Proofs.Account.Courses
import OrgFederation.Proofs.Sequence

namespace OrgFederation

variable {ω : Type}

/-- A token is granted in exchange for credentials when an answer to their token request carries
it. -/
def Http.Exchange.Grants (exchange : Http.Exchange) (credentials : Credentials)
    (token : String) : Prop :=
  ∃ url response grant, exchange.request = Client.tokenRequest credentials url ∧
    exchange.delivery = .answered response ∧ response.read TokenGrant.codec = .ok grant ∧
    grant.accessToken = token

/-- A token is granted for credentials by one of some exchanges. -/
def Http.GrantedBy (exchanges : List Http.Exchange) (credentials : Credentials)
    (token : String) : Prop :=
  ∃ exchange ∈ exchanges, exchange.Grants credentials token

namespace Http.GrantedBy

variable {first second : List Http.Exchange} {credentials : Credentials} {token : String}

theorem append_left (granted : GrantedBy first credentials token)
    (second : List Http.Exchange) : GrantedBy (first ++ second) credentials token := by
  obtain ⟨exchange, member, grants⟩ := granted
  exact ⟨exchange, List.mem_append_left second member, grants⟩

theorem append_right (first : List Http.Exchange) (granted : GrantedBy second credentials token) :
    GrantedBy (first ++ second) credentials token := by
  obtain ⟨exchange, member, grants⟩ := granted
  exact ⟨exchange, List.mem_append_right first member, grants⟩

end Http.GrantedBy

namespace Client

/-- A token is held, and the first that is seen is a reading of the clock before its time. -/
def Early (held : Option Token) (events : List Http.Event) : Prop :=
  ∃ token now, held = some token ∧ events.head? = some (.reading now) ∧ now < token.refreshAt

/-- No more than a reading of the clock is seen of a look. -/
theorem Looks.exchanges_eq {held : Option Token} {looked : List Http.Event} {found : Option String}
    (looks : Looks held looked found) : Http.exchanges looked = [] := by
  cases looks <;> rfl

/-- A look that leads to the held token is early. -/
theorem Looks.is_early {held : Option Token} {looked : List Http.Event} {token : String}
    (looks : Looks held looked (some token)) :
    Early held looked ∧ ∃ holding, held = some holding ∧ holding.value = token := by
  cases looks with
  | early early => exact ⟨⟨_, _, rfl, rfl, early⟩, _, rfl, rfl⟩

/-- A look that leads to no token is not early. -/
theorem Looks.not_early {held : Option Token} {looked : List Http.Event}
    (looks : Looks held looked none) (rest : List Http.Event) : ¬Early held (looked ++ rest) := by
  rintro ⟨token, now, holds, first, early⟩
  cases looks with
  | empty => cases holds
  | late late =>
      cases holds
      cases first
      exact late early

/-- The clock is read for a token that is held. -/
theorem Looks.reads {looked : List Http.Event} {token : Token} {found : Option String}
    (looks : Looks (some token) looked found) : ∃ now, looked = [.reading now] := by
  cases looks with
  | early early => exact ⟨_, rfl⟩
  | late late => exact ⟨_, rfl⟩

/-- What comes of a token request is a reading at most. -/
theorem Receives.exchanges_eq {held left : Option Token} {asked : Http.Exchange}
    {read : List Http.Event} {result : Except CallFailure String}
    (receives : Receives held asked read result left) : Http.exchanges read = [] := by
  cases receives <;> rfl

section

variable {base : Url} {credentials : Credentials} {held left : Option Token}
  {events : List Http.Event}

/-- One request is sent for a token, or none when the held one is early or nothing can be sent. -/
theorem Gains.exchanges_cases {result : Except CallFailure String}
    (gains : Gains base credentials held events result left) :
    (Early held events ∨ ¬base.Serves) ∧ Http.exchanges events = [] ∨
      (¬Early held events ∧ base.Serves) ∧ ∃ asked url, Http.exchanges events = [asked] ∧
        base.below? tokenPath = some url ∧ asked.request = tokenRequest credentials url := by
  cases gains with
  | reused looks =>
      exact .inl ⟨.inl looks.is_early.1, looks.exchanges_eq⟩
  | asked looks asks =>
      cases asks with
      | unsent unserved =>
          refine .inl ⟨.inr unserved, ?_⟩
          rw [List.append_nil, looks.exchanges_eq]
      | @sent url delivery _ _ _ place serves receives =>
          refine .inr ⟨⟨looks.not_early _, serves⟩, ⟨tokenRequest credentials url, delivery⟩, url,
            ?_, place, rfl⟩
          rw [Http.exchanges_append, looks.exchanges_eq, List.nil_append]
          exact congrArg (List.cons _) receives.exchanges_eq

/-- The token that a client comes to is held from then on. -/
theorem Gains.is_held {value : String}
    (gains : Gains base credentials held events (.ok value) left) :
    ∃ token, left = some token ∧ token.value = value := by
  cases gains with
  | reused looks => exact looks.is_early.2
  | asked looks asks =>
      cases asks with
      | sent place serves receives =>
          cases receives with
          | token granted within => exact ⟨_, rfl, rfl⟩

/-- A grant that is told is one for the credentials that were sent. -/
theorem grants_of_tells {url : Url} {delivery : Http.Delivery} {grant : TokenGrant}
    (tells : Http.Exchange.Tells TokenGrant.codec ⟨tokenRequest credentials url, delivery⟩
      (.ok grant)) :
    Http.Exchange.Grants ⟨tokenRequest credentials url, delivery⟩ credentials
      grant.accessToken := by
  obtain ⟨response, delivered, reads⟩ := tells.answer
  exact ⟨url, response, grant, rfl, delivered, reads, rfl⟩

/-- A token that is held behind the way to it was held before or is granted on this way. -/
theorem Gains.held_or_granted {result : Except CallFailure String}
    (gains : Gains base credentials held events result left) {token : Token}
    (holds : left = some token) :
    held = some token ∨ Http.GrantedBy (Http.exchanges events) credentials token.value := by
  cases gains with
  | reused looks => exact .inl holds
  | asked looks asks =>
      rw [Http.exchanges_append, looks.exchanges_eq, List.nil_append]
      cases asks with
      | unsent unserved => exact .inl holds
      | sent place serves receives =>
          cases receives with
          | nothing refused => exact .inl holds
          | endless granted beyond => exact .inl holds
          | token granted within =>
              cases holds
              rw [Receipt.value_of_token within]
              exact .inr ⟨_, List.mem_cons_self, grants_of_tells granted⟩

/-- A request of a call: it asks for a token with the credentials of the client, or it is the call
itself, with a token that the client held before or was granted on the way. -/
def Proper (base : Url) (credentials : Credentials) (call : Call) (held : Option Token)
    (earlier : List Http.Exchange) (request : Http.Request) : Prop :=
  (∃ url, request = tokenRequest credentials url) ∨
    ∃ url token, base.below? call.path = some url ∧ request = callRequest call url token ∧
      ((∃ refreshAt, held = some ⟨token, refreshAt⟩) ∨
        Http.GrantedBy earlier credentials token)

variable {call : Call} {result : Except CallFailure call.Answer}

theorem Course.held_or_granted (course : Course base credentials call held events result left)
    {token : Token} (holds : left = some token) :
    held = some token ∨ Http.GrantedBy (Http.exchanges events) credentials token.value := by
  cases course with
  | unplaced unserved => exact .inl holds
  | tokenless gains => exact gains.held_or_granted holds
  | prepared gains sends =>
      rw [Http.exchanges_append]
      exact (gains.held_or_granted holds).imp_right fun granted => granted.append_left _

theorem Gains.proper {found : Except CallFailure String}
    (gains : Gains base credentials held events found left) (call : Call)
    {earlier rest : List Http.Exchange} {exchange : Http.Exchange}
    (divided : Http.exchanges events = earlier ++ exchange :: rest) :
    Proper base credentials call held earlier exchange.request := by
  rcases gains.exchanges_cases with ⟨-, none⟩ | ⟨-, asked, url, one, -, request⟩
  · simp [none] at divided
  · have listed : exchange ∈ Http.exchanges events := by simp [divided]
    rw [one] at listed
    exact .inl ⟨url, List.mem_singleton.mp listed ▸ request⟩

/-- The requests of a call are proper. -/
theorem Course.proper (course : Course base credentials call held events result left)
    {earlier rest : List Http.Exchange} {exchange : Http.Exchange}
    (divided : Http.exchanges events = earlier ++ exchange :: rest) :
    Proper base credentials call held earlier exchange.request := by
  cases course with
  | unplaced unserved => simp [Http.exchanges] at divided
  | tokenless gains => exact gains.proper call divided
  | prepared gains sends =>
      rw [Http.exchanges_append] at divided
      rcases divided_append divided with ⟨behind, among⟩ | ⟨between, rfl, same⟩
      · exact gains.proper call among
      · -- The request of the call itself comes behind all requests for a token.
        cases sends with
        | unsendable cannot => simp [Http.exchanges] at same
        | sent place can tells =>
            have listed : exchange ∈ between ++ exchange :: rest := by simp
            rw [← same] at listed
            rw [List.mem_singleton.mp listed]
            obtain ⟨token, holds, rfl⟩ := gains.is_held
            refine .inr ⟨_, token.value, place, rfl, ?_⟩
            rcases gains.held_or_granted holds with before | granted
            · exact .inl ⟨token.refreshAt, before⟩
            · exact .inr (granted.append_left between)

end

/-- The work of a client over a network that notes its requests. -/
abbrev NotedWork (ω : Type) : Type := ClientWork (ω × List Http.Exchange)

/-- The work goes on by some requests. The credentials stay, and a token that is held then was held
before or is granted for them. -/
structure Progress (start later : NotedWork ω) (asked : List Http.Exchange) : Prop where
  credentials : later.client.credentials = start.client.credentials
  exchanges : later.network.2 = start.network.2 ++ asked
  token : ∀ token, later.client.token = some token →
    start.client.token = some token ∨
      Http.GrantedBy asked start.client.credentials token.value

/-- A call goes on by proper requests alone, however it is replied to. -/
theorem reply_progress (network : Http.Network ω) (base : Url) (call : Call)
    (start : NotedWork ω) :
    ∃ asked, Progress start (reply network.recorded base call start).2 asked ∧
      ∀ earlier exchange rest, asked = earlier ++ exchange :: rest →
        Proper base start.client.credentials call start.client.token earlier exchange.request := by
  obtain ⟨events, result, left, later, ran, goes, course⟩ :=
    perform_takes network.recorded base call start
  rw [reply_state, ran]
  refine ⟨Http.exchanges events, ⟨rfl, goes.recorded, ?_⟩, ?_⟩
  · exact fun token holds => course.held_or_granted holds
  · exact fun earlier exchange rest divided => course.proper divided

end Client

end OrgFederation

/-
This file walks once through a call of a client. What is seen of it, how it ends and which token is
held behind it are told by its course; whatever else is known of calls comes from their courses.
-/

import OrgFederation.Account.Client
import OrgFederation.Proofs.Account.Addresses
import OrgFederation.Proofs.Account.Traces
import OrgFederation.Proofs.Stateful

namespace OrgFederation

variable {ω α β : Type}

namespace Http

/-- What an exchange tells: the value that its answer carries, or why there is none. -/
inductive Exchange.Tells (codec : Json.Codec α) : Exchange → Except CallError α → Prop
  | silent {request : Request} {delivery : Delivery} {detail : String}
      (silent : ∀ response, delivery ≠ .answered response) :
      Tells codec ⟨request, delivery⟩ (.error (.transport detail))
  | answered {request : Request} {response : Response} {told : Except CallError α}
      (reads : response.read codec = told) : Tells codec ⟨request, .answered response⟩ told

/-- A value is told by an answer. -/
theorem Exchange.Tells.answer {codec : Json.Codec α} {exchange : Exchange} {value : α}
    (tells : exchange.Tells codec (.ok value)) : ∃ response,
      exchange.delivery = .answered response ∧ response.read codec = .ok value := by
  cases tells with
  | answered reads => exact ⟨_, rfl, reads⟩

/-- An exchange that tells a value tells nothing else. -/
theorem Exchange.Tells.eq_ok {codec : Json.Codec α} {exchange : Exchange}
    {told : Except CallError α} {value : α} (tells : exchange.Tells codec told)
    (known : exchange.Tells codec (.ok value)) : told = .ok value := by
  obtain ⟨response, delivered, reads⟩ := known.answer
  cases tells with
  | silent silent => exact absurd delivered (silent response)
  | answered same =>
      cases delivered
      exact same.symm.trans reads

/-- What a request for a token is granted, if it is answered so. -/
def Exchange.grant? (exchange : Exchange) : Option TokenGrant :=
  match exchange.delivery with
  | .answered response => (response.read TokenGrant.codec).toOption
  | _ => none

theorem Exchange.Tells.grant_eq {exchange : Exchange} {told : Except CallError TokenGrant}
    (tells : exchange.Tells TokenGrant.codec told) : exchange.grant? = told.toOption := by
  cases tells with
  | @silent request delivery detail silent =>
      cases delivery with
      | answered response => exact absurd rfl (silent response)
      | unanswered => rfl
      | cut => rfl
  | answered reads => exact congrArg Except.toOption reads

/-- The address of a request is over the web when the one that it is made for is. -/
theorem Request.isHttp_to (method : Method) (url : Url) (headers : Headers) (body : String) :
    (Request.to method url headers body).url.isHttp = url.isHttp := by
  rw [Request.to]
  split <;> rfl

end Http

/-- An address below which requests can be sent: it is over the web, and its path has a root. -/
def Url.Serves (base : Url) : Prop :=
  base.isHttp = true ∧ ∃ held, base.path = .rooted held

/-- What is found below an address is over the web when that is. -/
theorem Url.isHttp_below {base url : Url} {segments : List String}
    (found : base.below? segments = some url) : url.isHttp = base.isHttp := by
  rw [below?] at found
  split at found
  · cases found
  · cases found
    rfl

/-- Below an address that serves, everything is found. -/
theorem Url.Serves.below {base : Url} (serves : base.Serves) (segments : List String) :
    ∃ url, base.below? segments = some url ∧ url.isHttp = true := by
  obtain ⟨web, held, rooted⟩ := serves
  cases found : base.below? segments with
  | none => simp [below?, rooted] at found
  | some url => exact ⟨url, rfl, (isHttp_below found).trans web⟩

/-- What is found below an address is over the web exactly when that serves. -/
theorem Url.isHttp_iff_serves {base url : Url} {segments : List String}
    (found : base.below? segments = some url) : url.isHttp = true ↔ base.Serves := by
  rw [isHttp_below found]
  constructor
  · intro web
    refine ⟨web, ?_⟩
    rw [below?] at found
    split at found
    · cases found
    · next held rooted => exact ⟨held, rooted⟩
  · exact And.left

/-- The base address of valid settings serves. -/
theorem Settings.serves {raw : RawSettings} {settings : Settings}
    (accepted : Settings.ofRaw raw = .ok settings) : settings.apiBaseUrl.Serves := by
  obtain ⟨text, -, web⟩ := apiBaseUrl_reads accepted
  obtain ⟨authority, held, based⟩ := based accepted
  exact ⟨web, held, based.path⟩

/-- A token that was granted, and the time at which it came. -/
structure Receipt where
  grant : TokenGrant
  time : Instant
  deriving DecidableEq, Repr

/-- A token is held when the clock can represent the time until which it is used. -/
def Receipt.token? (receipt : Receipt) : Option Token :=
  (receipt.time.after? receipt.grant.useSeconds).map fun refreshAt =>
    ⟨receipt.grant.accessToken, refreshAt⟩

theorem Receipt.token_eq (grant : TokenGrant) (time : Instant) :
    Receipt.token? ⟨grant, time⟩ =
      (time.after? grant.useSeconds).map fun refreshAt => ⟨grant.accessToken, refreshAt⟩ := rfl

/-- The value of a token is the one that was granted. -/
theorem Receipt.value_of_token {receipt : Receipt} {token : Token}
    (held : receipt.token? = some token) : token.value = receipt.grant.accessToken := by
  obtain ⟨refreshAt, -, rfl⟩ := Option.map_eq_some_iff.mp held
  rfl

namespace ClientM

/-- The courses of a step: what is seen of it, how it ends, and which token is held behind it. -/
abbrev Courses (α : Type) : Type :=
  List Http.Event → Except CallFailure α → Option Token → Prop

/-- A step takes one of some courses, and it changes no more of its client than the token. -/
def Takes (network : Http.Network ω) (step : ClientM ω α) (start : ClientWork ω)
    (course : Courses α) : Prop :=
  ∃ events result left later,
    step.run start = (result, ⟨{ start.client with token := left }, later⟩) ∧
      network.Goes start.network events later ∧ course events result left

namespace Takes

variable {network : Http.Network ω} {start : ClientWork ω}

/-- A step that leaves all as it is has no events. -/
theorem still {step : ClientM ω α} {result : Except CallFailure α} {course : Courses α}
    (ran : step.run start = (result, start)) (took : course [] result start.client.token) :
    Takes network step start course :=
  ⟨[], result, start.client.token, start.network, ran, .still, took⟩

/-- A step that another one follows takes its course and then that one's, unless it fails. -/
theorem bind {step : ClientM ω α} {next : α → ClientM ω β} {first : Courses α}
    {whole : Courses β} (takes : Takes network step start first)
    (further : ∀ {events result left later}, first events result left →
      match result with
      | .ok value => Takes network (next value) ⟨{ start.client with token := left }, later⟩
          fun more result left => whole (events ++ more) result left
      | .error failure => whole events (.error failure) left) :
    Takes network (step >>= next) start whole := by
  obtain ⟨events, result, left, later, ran, goes, took⟩ := takes
  have rest := @further events result left later took
  cases result with
  | error failure =>
      exact ⟨events, _, left, later, Stateful.run_bind_error ran next, goes, rest⟩
  | ok value =>
      obtain ⟨more, result, left, last, ends, goesOn, tookAll⟩ := rest
      exact ⟨events ++ more, result, left, last, (Stateful.run_bind_ok ran next).trans ends,
        goes.trans goesOn, tookAll⟩

theorem weaken {step : ClientM ω α} {first second : Courses α}
    (takes : Takes network step start first)
    (weaker : ∀ {events result left}, first events result left → second events result left) :
    Takes network step start second := by
  obtain ⟨events, result, left, later, ran, goes, took⟩ := takes
  exact ⟨events, result, left, later, ran, goes, weaker took⟩

/-- A step may depend on the work that it starts with. -/
theorem get_bind {next : ClientWork ω → ClientM ω α} {course : Courses α}
    (takes : Takes network (next start) start course) :
    Takes network (get >>= next) start course :=
  takes

end Takes

end ClientM

namespace Client

theorem isHttp_tokenRequest (credentials : Credentials) (url : Url) :
    (tokenRequest credentials url).url.isHttp = url.isHttp :=
  Http.Request.isHttp_to _ _ _ _

theorem isHttp_callRequest (call : Call) (url : Url) (token : String) :
    (callRequest call url token).url.isHttp = url.isHttp := by
  rw [callRequest]
  split <;> exact Http.Request.isHttp_to _ _ _ _

/-- An address is found below a base, or the base does not serve. -/
inductive Finds (base : Url) (path : List String) :
    List Http.Event → Except CallFailure Url → Prop
  | found {url : Url} (place : base.below? path = some url) : Finds base path [] (.ok url)
  | nowhere {detail : String} (unserved : ¬base.Serves) :
      Finds base path [] (.error (transportFailure detail))

/-- A request is sent once, and what it tells is read, or it is not over the web. -/
inductive Posts (request : Http.Request) (codec : Json.Codec α) :
    List Http.Event → Except CallFailure α → Prop
  | unsent {detail : String} (other : request.url.isHttp = false) :
      Posts request codec [] (.error (transportFailure detail))
  | sent {delivery : Http.Delivery} {told : Except CallError α} (web : request.url.isHttp = true)
      (tells : Http.Exchange.Tells codec ⟨request, delivery⟩ told) :
      Posts request codec [.exchange ⟨request, delivery⟩] (told.mapError .reported)

/-- A look at the token that is held: without one the clock is not read, and a token is used before
its time has come. -/
inductive Looks : Option Token → List Http.Event → Option String → Prop
  | empty : Looks none [] none
  | early {token : Token} {now : Instant} (early : now < token.refreshAt) :
      Looks (some token) [.reading now] (some token.value)
  | late {token : Token} {now : Instant} (late : ¬now < token.refreshAt) :
      Looks (some token) [.reading now] none

/-- What comes of a token request: the clock is read once a token is granted, and the token is held
from then on. -/
inductive Receives (held : Option Token) (asked : Http.Exchange) :
    List Http.Event → Except CallFailure String → Option Token → Prop
  | nothing {cause : CallError} (refused : asked.Tells TokenGrant.codec (.error cause)) :
      Receives held asked [] (.error (.reported cause)) held
  | endless {receipt : Receipt} (granted : asked.Tells TokenGrant.codec (.ok receipt.grant))
      (beyond : receipt.token? = none) :
      Receives held asked [.reading receipt.time] (.error .clockOverflow) held
  | token {receipt : Receipt} {token : Token}
      (granted : asked.Tells TokenGrant.codec (.ok receipt.grant))
      (within : receipt.token? = some token) :
      Receives held asked [.reading receipt.time] (.ok token.value) (some token)

/-- A new token is asked for with one request, which is sent if it can be. -/
inductive Asks (base : Url) (credentials : Credentials) (held : Option Token) :
    List Http.Event → Except CallFailure String → Option Token → Prop
  | unsent {detail : String} (unserved : ¬base.Serves) :
      Asks base credentials held [] (.error (transportFailure detail)) held
  | sent {url : Url} {delivery : Http.Delivery} {read : List Http.Event}
      {result : Except CallFailure String} {left : Option Token}
      (place : base.below? tokenPath = some url) (serves : base.Serves)
      (receives : Receives held ⟨tokenRequest credentials url, delivery⟩ read result left) :
      Asks base credentials held (.exchange ⟨tokenRequest credentials url, delivery⟩ :: read)
        result left

/-- A client comes to the token for a call: it uses the one that it holds, or asks for another. -/
inductive Gains (base : Url) (credentials : Credentials) (held : Option Token) :
    List Http.Event → Except CallFailure String → Option Token → Prop
  | reused {looked : List Http.Event} {token : String} (looks : Looks held looked (some token)) :
      Gains base credentials held looked (.ok token) held
  | asked {looked asked : List Http.Event} {result : Except CallFailure String}
      {left : Option Token} (looks : Looks held looked none)
      (asks : Asks base credentials held asked result left) :
      Gains base credentials held (looked ++ asked) result left

/-- The request of a call with its token. It is sent once, if it can be. -/
inductive Sends (base : Url) (call : Call) (token : String) :
    List Http.Event → Except CallFailure call.Answer → Prop
  | unsendable {detail : String} (cannot : ¬(Http.isValue token = true ∧ base.Serves)) :
      Sends base call token [] (.error (transportFailure detail))
  | sent {url : Url} {delivery : Http.Delivery} {told : Except CallError call.Answer}
      (place : base.below? call.path = some url) (can : Http.isValue token = true ∧ base.Serves)
      (tells : Http.Exchange.Tells call.answerCodec ⟨callRequest call url token, delivery⟩ told) :
      Sends base call token [.exchange ⟨callRequest call url token, delivery⟩]
        (told.mapError .reported)

/-- A call that is sent with its token returns. -/
theorem Sends.returns {base : Url} {call : Call} {token : String} {own : List Http.Event}
    {result : Except CallFailure call.Answer} (sends : Sends base call token own result) :
    result ≠ .error .clockOverflow := by
  intro endless
  cases sends with
  | unsendable cannot => cases endless
  | @sent url delivery told place can tells => cases told <;> cases endless

/-- The course of a call: what is seen of it, how it ends and which token is held behind it. -/
inductive Course (base : Url) (credentials : Credentials) (call : Call) (held : Option Token) :
    List Http.Event → Except CallFailure call.Answer → Option Token → Prop
  | unplaced {detail : String} (unserved : ¬base.Serves) :
      Course base credentials call held [] (.error (transportFailure detail)) held
  | tokenless {events : List Http.Event} {failure : CallFailure} {left : Option Token}
      (gains : Gains base credentials held events (.error failure) left) :
      Course base credentials call held events (.error failure) left
  | prepared {events own : List Http.Event} {token : String} {left : Option Token}
      {result : Except CallFailure call.Answer}
      (gains : Gains base credentials held events (.ok token) left)
      (sends : Sends base call token own result) :
      Course base credentials call held (events ++ own) result left

variable (network : Http.Network ω) (base : Url)

theorem endpoint_takes (path : List String) (start : ClientWork ω) :
    ClientM.Takes network (endpoint base path) start fun events result left =>
      left = start.client.token ∧ Finds base path events result := by
  rw [endpoint]
  cases found : base.below? path with
  | some url => exact .still rfl ⟨rfl, .found found⟩
  | none =>
      refine .still rfl ⟨rfl, .nowhere fun serves => ?_⟩
      obtain ⟨url, below, -⟩ := serves.below path
      rw [found] at below
      cases below

theorem readClock_takes (start : ClientWork ω) :
    ClientM.Takes network (readClock network) start fun events result left =>
      left = start.client.token ∧ ∃ time, events = [.reading time] ∧ result = .ok time :=
  ⟨_, _, _, _, rfl, .read rfl .still, rfl, _, rfl, rfl⟩

theorem heldToken_takes (start : ClientWork ω) :
    ClientM.Takes network (heldToken? network) start fun events result left =>
      left = start.client.token ∧
        ∃ found, result = .ok found ∧ Looks start.client.token events found := by
  apply ClientM.Takes.get_bind
  cases held : start.client.token with
  | none => exact .still rfl ⟨held, none, rfl, .empty⟩
  | some token =>
      refine .bind (readClock_takes network start) ?_
      rintro _ _ _ later ⟨rfl, now, rfl, rfl⟩
      refine .still rfl ⟨held, _, rfl, ?_⟩
      split
      · next early => exact .early early
      · next late => exact .late late

/-- A request that is delivered is seen with what became of it. -/
theorem deliver_takes (request : Http.Request) (start : ClientWork ω) :
    ClientM.Takes network
      (modifyGet fun work =>
        let (delivery, state) := network.deliver request work.network
        (delivery, { work with network := state }))
      start fun events result left => left = start.client.token ∧
        ∃ delivery, events = [.exchange ⟨request, delivery⟩] ∧ result = .ok delivery :=
  ⟨_, _, _, _, rfl, .deliver rfl .still, rfl, _, rfl, rfl⟩

/-- The value that an answer carries is read without an event. -/
theorem readAnswer_run (codec : Json.Codec α) (response : Http.Response) (start : ClientWork ω) :
    (readAnswer codec response).run start =
      ((response.read codec).mapError .reported, start) := by
  rw [readAnswer]
  cases response.read codec <;> rfl

/-- A request is sent and its answer is read. -/
theorem post_takes (stage : String) (request : Http.Request) (codec : Json.Codec α)
    (start : ClientWork ω) :
    ClientM.Takes network (send network stage request >>= readAnswer codec) start
      fun events result left => left = start.client.token ∧ Posts request codec events result := by
  rw [send]
  split
  · next web =>
      rw [bind_assoc]
      refine .bind (deliver_takes network request start) ?_
      rintro _ _ _ later ⟨rfl, delivery, rfl, rfl⟩
      cases delivery with
      | unanswered => exact .still rfl ⟨rfl, .sent web (.silent (by simp))⟩
      | cut => exact .still rfl ⟨rfl, .sent web (.silent (by simp))⟩
      | answered response =>
          exact .still (readAnswer_run codec response _) ⟨rfl, .sent web (.answered rfl)⟩
  · next other => exact .still rfl ⟨rfl, .unsent (by simpa using other)⟩

/-- A new token is asked for in one of these ways. -/
theorem newToken_takes (start : ClientWork ω) :
    ClientM.Takes network (newToken network base) start
      (Asks base start.client.credentials start.client.token) := by
  refine .bind (endpoint_takes network base tokenPath start) ?_
  rintro _ _ _ later ⟨rfl, finds⟩
  cases finds with
  | nowhere unserved => exact .unsent unserved
  | @found url place =>
      have serves := Url.isHttp_iff_serves place
      rw [← isHttp_tokenRequest start.client.credentials] at serves
      apply ClientM.Takes.get_bind
      -- One exchange tells what comes of sending and reading together.
      rw [← bind_assoc]
      refine .bind (post_takes network _ _ _ _) ?_
      rintro _ _ _ later ⟨rfl, posts⟩
      cases posts with
      | unsent other => exact .unsent fun served => by simp [serves.mpr served] at other
      | @sent delivery told web tells =>
          cases told with
          | error cause => exact .sent place (serves.mp web) (.nothing tells)
          | ok grant =>
              refine .bind (readClock_takes network _) ?_
              rintro _ _ _ last ⟨rfl, time, rfl, rfl⟩
              have token := Receipt.token_eq grant time
              dsimp only
              cases within : time.after? grant.useSeconds with
              | none =>
                  rw [within] at token
                  exact .still rfl (.sent place (serves.mp web) (.endless tells token))
              | some refreshAt =>
                  rw [within] at token
                  exact ⟨[], _, _, _, rfl, .still, .sent place (serves.mp web) (.token tells token)⟩

/-- A client comes to its token in one of these ways. -/
theorem accessToken_takes (start : ClientWork ω) :
    ClientM.Takes network (accessToken network base) start
      (Gains base start.client.credentials start.client.token) := by
  refine .bind (heldToken_takes network start) ?_
  rintro looked _ _ later ⟨rfl, found, rfl, looks⟩
  cases found with
  | some token => exact .still rfl ((List.append_nil looked).symm ▸ .reused looks)
  | none => exact (newToken_takes network base _).weaken fun asks => .asked looks asks

/-- What a call does with its address and its token. -/
def callWith (network : Http.Network ω) (call : Call) (url : Url) (token : String) :
    ClientM ω call.Answer :=
  if Http.isValue token then do
    let response ← send network "" (callRequest call url token)
    readAnswer call.answerCodec response
  else
    throw (transportFailure "builder error")

theorem perform_eq (call : Call) : perform network base call =
    endpoint base call.path >>= fun url =>
      accessToken network base >>= callWith network call url := rfl

/-- A call is sent with its token, if it can be. -/
theorem callWith_takes {base : Url} {call : Call} {url : Url}
    (place : base.below? call.path = some url) (token : String) (start : ClientWork ω) :
    ClientM.Takes network (callWith network call url token) start fun events result left =>
      left = start.client.token ∧ Sends base call token events result := by
  have serves := Url.isHttp_iff_serves place
  rw [← isHttp_callRequest call url token] at serves
  rw [callWith]
  split
  · next valid =>
      refine (post_takes network _ _ _ start).weaken ?_
      rintro _ _ _ ⟨rfl, posts⟩
      refine ⟨rfl, ?_⟩
      cases posts with
      | unsent other =>
          exact .unsendable fun can => by simp [serves.mpr can.2] at other
      | sent web tells => exact .sent place ⟨valid, serves.mp web⟩ tells
  · next invalid => exact .still rfl ⟨rfl, .unsendable fun can => invalid can.1⟩

/-- A call takes one of the courses. -/
theorem perform_takes (call : Call) (start : ClientWork ω) :
    ClientM.Takes network (perform network base call) start
      (Course base start.client.credentials call start.client.token) := by
  rw [perform_eq]
  refine .bind (endpoint_takes network base call.path start) ?_
  rintro _ _ _ later ⟨rfl, finds⟩
  cases finds with
  | nowhere unserved => exact .unplaced unserved
  | found place =>
      refine .bind (accessToken_takes network base _) ?_
      rintro events result left last gains
      cases result with
      | error failure => exact .tokenless gains
      | ok token =>
          refine (callWith_takes network place token _).weaken ?_
          rintro own result _ ⟨rfl, sends⟩
          -- Nothing is seen of finding the address.
          have course := Course.prepared gains sends
          exact course

/-- A call goes on as it is performed, however it is replied to. -/
theorem reply_state (call : Call) (start : ClientWork ω) :
    (reply network base call start).2 = ((perform network base call).run start).2 := by
  rw [reply]
  rcases (perform network base call).run start with ⟨result, later⟩
  rcases result with ⟨_ | _⟩ | _ <;> rfl

end Client

end OrgFederation

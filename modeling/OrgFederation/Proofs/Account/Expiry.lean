import OrgFederation.Proofs.Account.Receipts
import OrgFederation.Proofs.Json.ReadsBack
import OrgFederation.Proofs.Json.Yields

namespace OrgFederation

variable {ω : Type}

/-- A time is out of reach when its second is beyond the greatest one of the clock. -/
theorem Instant.after_eq_none_iff {instant : Instant} {seconds : Nat} :
    instant.after? seconds = none ↔ Word64.greatestSigned < instant.second + seconds := by
  rw [after?]
  split
  · next within => simpa using within
  · next beyond => simpa using beyond

/-- A time in reach is the given number of seconds later. -/
theorem Instant.after_of_le {instant : Instant} {seconds : Nat}
    (within : instant.second + seconds ≤ Word64.greatestSigned) :
    instant.after? seconds = some ⟨instant.nanoseconds + seconds * 1000000000⟩ :=
  if_pos within

/-- The bytes of a text are read as the text is. -/
theorem Json.Document.ofBytes_encode (text : String) :
    ofBytes (Text.Utf8.encode text) = ofText text := by
  rw [ofBytes, Text.Utf8.symbols_encode, ofText]

namespace TokenGrant

/-- Every lifetime that fits into a word can be granted: it is read back as it was written. -/
theorem readsBack {grant : TokenGrant}
    (fits : ∀ seconds ∈ grant.expiresIn, seconds ≤ Word64.greatest) : codec.ReadsBack 1 grant :=
  Json.Fields.codec_readsBack (by decide) rfl
    ⟨Json.Field.required_readsBack (Json.Codec.text_readsBack _),
      Json.Field.optional_readsBack Json.Codec.word64_refusesNull fun seconds told =>
        Json.Codec.word64_readsBack (fits seconds told), trivial⟩

/-- No other lifetime can be granted. -/
theorem yields : codec.Yields fun grant =>
    ∀ seconds ∈ grant.expiresIn, seconds ≤ Word64.greatest := by
  intro depth node grant decodes
  obtain ⟨⟨token, expiresIn, ⟨⟩⟩, ⟨-, gives, -⟩, rfl⟩ :=
    Json.Fields.codec_yields (by decide) _ _ _ decodes
  exact gives.of_optional Json.Codec.word64_yields

/-- The answer that grants a token. -/
def answer (grant : TokenGrant) : Http.Response :=
  ⟨200, Text.Utf8.encode (codec.encode grant).render⟩

theorem read_answer {grant : TokenGrant}
    (fits : ∀ seconds ∈ grant.expiresIn, seconds ≤ Word64.greatest) :
    grant.answer.read codec = .ok grant := by
  have decodes := (readsBack fits).decode_render (by decide)
  have success : Http.isSuccess grant.answer.status = true := rfl
  rw [Http.Response.read, if_pos success, answer, Json.Document.ofBytes_encode, decodes]
  rfl

theorem fits_of_read {response : Http.Response} {grant : TokenGrant}
    (reads : response.read codec = .ok grant) :
    ∀ seconds ∈ grant.expiresIn, seconds ≤ Word64.greatest := by
  rw [Http.Response.read, if_pos (Http.Response.isSuccess_of_read reads)] at reads
  cases decoded : (Json.Document.ofBytes response.body).decode codec.decode with
  | error problem =>
      rw [decoded] at reads
      cases reads
  | ok other =>
      rw [decoded] at reads
      cases reads
      exact yields (Json.Document.decode_eq_ok_iff.mp decoded).1

end TokenGrant

namespace Receipt

/-- The clock cannot count up to the second until which a token would be used. -/
def Overflows (receipt : Receipt) : Prop :=
  9223372036854775807 < receipt.time.second + max 0 ((receipt.lifetime : Int) - 60)

/-- The time until which a token is used: its lifetime is over then, but for a margin. -/
def dueAt (receipt : Receipt) : Instant :=
  ⟨receipt.time.nanoseconds + max 0 ((receipt.lifetime : Int) - 60) * 1000000000⟩

/-- A token is used for its lifetime less the margin, or once when that is longer. -/
theorem useSeconds_eq (receipt : Receipt) :
    (receipt.grant.useSeconds : Int) = max 0 ((receipt.lifetime : Int) - 60) := by
  show ((receipt.lifetime - 60 : Nat) : Int) = _
  omega

/-- A token is not held when the clock cannot count so far. -/
theorem token_of_overflows {receipt : Receipt} (beyond : receipt.Overflows) :
    receipt.token? = none := by
  rw [Overflows, ← useSeconds_eq] at beyond
  rw [token?, Instant.after_eq_none_iff.mpr beyond]
  rfl

theorem token_of_not_overflows {receipt : Receipt} (within : ¬receipt.Overflows) :
    receipt.token? = some ⟨receipt.grant.accessToken, receipt.dueAt⟩ := by
  rw [Overflows, ← useSeconds_eq] at within
  rw [token?, Instant.after_of_le (Int.not_lt.mp within), dueAt, ← useSeconds_eq]
  rfl

/-- At a time all responses are safe exactly when it is so early that the clock can count on for
any number of seconds that fits into a word. -/
theorem never_overflows_iff (time : Instant) :
    (∀ (response : Http.Response) grant, response.read TokenGrant.codec = .ok grant →
      ¬Receipt.Overflows ⟨grant, time⟩) ↔ time.second ≤ -9223372036854775748 := by
  constructor
  · intro safe
    have fits : ∀ seconds ∈ some Word64.greatest, seconds ≤ Word64.greatest := by
      rintro seconds ⟨⟩
      exact Nat.le_refl _
    have within := safe _ ⟨"", some Word64.greatest⟩ (TokenGrant.read_answer fits)
    simp only [Overflows, lifetime, Option.getD_some, Word64.greatest] at within
    omega
  · intro early response grant reads
    have fits : (Receipt.mk grant time).lifetime ≤ Word64.greatest := by
      rw [lifetime]
      cases told : grant.expiresIn with
      | none => decide
      | some seconds => exact TokenGrant.fits_of_read reads seconds told
    simp only [Overflows, Word64.greatest] at fits ⊢
    omega

end Receipt

namespace Client

variable {network : Http.Network ω} {base : Url}

/-- A call returns unless its client comes to no token for want of a clock. -/
theorem perform_overflows_iff (serves : base.Serves) (call : Call) (start : ClientWork ω) :
    ((perform network base call).run start).1 = .error .clockOverflow ↔
      ((accessToken network base).run start).1 = .error .clockOverflow := by
  obtain ⟨_, _, _, _, found, goes, rfl, finds⟩ := endpoint_takes network base call.path start
  cases finds with
  | nowhere unserved => exact absurd serves unserved
  | found place =>
      cases goes
      rw [perform_eq, Stateful.run_bind_ok found, Stateful.run_bind]
      rcases (accessToken network base).run start with ⟨result, later⟩
      cases result with
      | error failure => simp
      | ok token =>
          obtain ⟨_, _, _, _, ran, -, -, sends⟩ := callWith_takes network place token later
          dsimp only
          rw [ran]
          exact iff_of_false sends.returns fun same => by cases same

/-- A token response that decodes comes to a client: the client may use no token that it holds, its
token request is answered so, and then the clock is read. -/
inductive Comes (network : Http.Network ω) (base : Url) (start : ClientWork ω) (receipt : Receipt)
    (later : ω) : Prop
  | granted {looked asked : ω} {url : Url} {response : Http.Response}
      (late : (heldToken? network).run start = (.ok none, ⟨start.client, looked⟩))
      (web : base.isHttp = true) (place : base.below? tokenPath = some url)
      (answered : network.deliver (tokenRequest start.client.credentials url) looked =
        (.answered response, asked))
      (decodes : response.read TokenGrant.codec = .ok receipt.grant)
      (reads : network.now asked = (receipt.time, later)) :
      Comes network base start receipt later

section

variable {start : ClientWork ω} {receipt : Receipt} {later : ω}

/-- A client that is granted a token works below an address that serves. -/
theorem Comes.serves (comes : Comes network base start receipt later) : base.Serves := by
  obtain ⟨-, web, place, -⟩ := comes
  exact (Url.isHttp_iff_serves place).mp ((Url.isHttp_below place).trans web)

/-- The receipt of a token is told by its request and by the next reading of the clock. -/
theorem came_eq {came : Receipt} {asked : Http.Exchange} {state last : ω}
    (told : asked.Tells TokenGrant.codec (.ok came.grant))
    (granted : asked.Tells TokenGrant.codec (.ok receipt.grant))
    (goes : network.Goes state [.reading came.time] last)
    (reads : network.now state = (receipt.time, later)) : came = receipt ∧ last = later := by
  obtain ⟨grant, time⟩ := came
  cases goes with
  | read now rest =>
      cases rest
      cases told.eq_ok granted
      cases now.symm.trans reads
      exact ⟨rfl, rfl⟩

/-- What comes of a token request that is granted is decided by the clock. -/
theorem Receives.ends {held left : Option Token} {asked : Http.Exchange} {read : List Http.Event}
    {result : Except CallFailure String} {state last : ω}
    (receives : Receives held asked read result left)
    (granted : asked.Tells TokenGrant.codec (.ok receipt.grant))
    (goes : network.Goes state read last) (reads : network.now state = (receipt.time, later)) :
    last = later ∧ (result, left) =
      receipt.token?.elim (.error .clockOverflow, held) fun token =>
        (.ok token.value, some token) := by
  cases receives with
  | nothing refused => cases refused.eq_ok granted
  | endless told beyond =>
      obtain ⟨rfl, rfl⟩ := came_eq told granted goes reads
      rw [beyond]
      exact ⟨rfl, rfl⟩
  | token told within =>
      obtain ⟨rfl, rfl⟩ := came_eq told granted goes reads
      rw [within]
      exact ⟨rfl, rfl⟩

/-- A token that comes is asked for, and the clock decides whether it can be held. -/
theorem Comes.run_eq (comes : Comes network base start receipt later) :
    (accessToken network base).run start =
      receipt.token?.elim (.error .clockOverflow, ⟨start.client, later⟩) fun token =>
        (.ok token.value, ⟨{ start.client with token := some token }, later⟩) := by
  have serves := comes.serves
  obtain ⟨late, web, place, answered, decodes, reads⟩ := comes
  obtain ⟨_, _, _, _, ran, goes, asks⟩ := newToken_takes network base ⟨start.client, _⟩
  rw [accessToken, Stateful.run_bind_ok late]
  dsimp only
  rw [ran]
  -- The network has one way to go, so that the course of the request is the one that is told.
  cases asks with
  | unsent unserved => exact absurd serves unserved
  | sent there _ receives =>
      cases place.symm.trans there
      cases goes with
      | deliver delivered rest =>
          cases delivered.symm.trans answered
          obtain ⟨rfl, ends⟩ := receives.ends (.answered decodes) rest reads
          cases held : receipt.token? with
          | none =>
              rw [held] at ends
              cases ends
              rfl
          | some token =>
              rw [held] at ends
              cases ends
              rfl

/-- A token response that decodes may be for longer than the clock can count: then the client comes to
no token, holds what it held, and its call never returns. Otherwise it comes to the token and holds it
until the time is over for which it is used. -/
theorem overflow_decides (comes : Comes network base start receipt later) :
    (receipt.Overflows →
      (accessToken network base).run start = (.error .clockOverflow, ⟨start.client, later⟩)) ∧
    (¬receipt.Overflows → (accessToken network base).run start =
      (.ok receipt.grant.accessToken,
        ⟨{ start.client with token := some ⟨receipt.grant.accessToken, receipt.dueAt⟩ }, later⟩)) ∧
    (∀ call, ((perform network base call).run start).1 = .error .clockOverflow ↔
      receipt.Overflows) ∧
    ((∀ (response : Http.Response) grant, response.read TokenGrant.codec = .ok grant →
      ¬Receipt.Overflows ⟨grant, receipt.time⟩) ↔
        receipt.time.second ≤ -9223372036854775748) := by
  have overflown (beyond : receipt.Overflows) : (accessToken network base).run start =
      (.error .clockOverflow, ⟨start.client, later⟩) := by
    rw [comes.run_eq, Receipt.token_of_overflows beyond]
    rfl
  have held (within : ¬receipt.Overflows) : (accessToken network base).run start =
      (.ok receipt.grant.accessToken,
        ⟨{ start.client with token := some ⟨receipt.grant.accessToken, receipt.dueAt⟩ }, later⟩) := by
    rw [comes.run_eq, Receipt.token_of_not_overflows within]
    rfl
  refine ⟨overflown, held, fun call => ?_, Receipt.never_overflows_iff _⟩
  rw [perform_overflows_iff comes.serves]
  constructor
  · intro endless
    by_contra within
    rw [held within] at endless
    cases endless
  · intro beyond
    rw [overflown beyond]

end

/-- A new client, whose token request gets some answer. -/
def newcomer (response : Http.Response) : ClientWork Http.Script :=
  ⟨.fresh 0 ⟨"org-1", "mdb_sa_id", "s3cr3t"⟩, ⟨true, [.respond response false], [], ⟨0⟩⟩⟩

/-- Any token that can be granted comes to a new client. -/
theorem newcomer_comes {grant : TokenGrant}
    (fits : ∀ seconds ∈ grant.expiresIn, seconds ≤ Word64.greatest) : ∃ later,
      Comes Http.Script.network cloudUrl (newcomer grant.answer) ⟨grant, ⟨0⟩⟩ later := by
  have serves : cloudUrl.Serves := ⟨rfl, _, rfl⟩
  obtain ⟨url, place, -⟩ := serves.below tokenPath
  exact ⟨_, .granted rfl rfl place rfl (TokenGrant.read_answer fits) rfl⟩

/-- At the start of the clock the longest lifetime that it can count leads to a token. -/
theorem overflow_decides_longest : ∃ later,
    Comes Http.Script.network cloudUrl (newcomer (TokenGrant.answer ⟨"tok", some 9223372036854775867⟩))
      ⟨⟨"tok", some 9223372036854775867⟩, ⟨0⟩⟩ later ∧
    ((accessToken Http.Script.network cloudUrl).run
      (newcomer (TokenGrant.answer ⟨"tok", some 9223372036854775867⟩))).1 = .ok "tok" := by
  obtain ⟨later, comes⟩ := @newcomer_comes ⟨"tok", some 9223372036854775867⟩
    (by rintro seconds ⟨⟩; decide)
  have within : ¬Receipt.Overflows ⟨⟨"tok", some 9223372036854775867⟩, ⟨0⟩⟩ := by
    rw [Receipt.Overflows]
    decide
  refine ⟨later, comes, ?_⟩
  rw [(overflow_decides comes).2.1 within]

/-- An answer that grants a token for one second more. -/
def longerAnswer : Http.Response :=
  ⟨200, Text.Utf8.encode "\x7b\"access_token\":\"tok\",\"expires_in\":9223372036854775868\x7d"⟩

/-- The token of that answer is never returned. -/
theorem longer_lifetime_overflows : ¬∀ (response : Http.Response) grant,
    response.read TokenGrant.codec = .ok grant →
      ((accessToken Http.Script.network cloudUrl).run (newcomer response)).1 =
        .ok grant.accessToken := by
  intro claimed
  have decodes : longerAnswer.read TokenGrant.codec = .ok ⟨"tok", some 9223372036854775868⟩ := by
    decide +kernel
  have fruitless : ((accessToken Http.Script.network cloudUrl).run
      (newcomer longerAnswer)).1.toOption = none := by
    decide +kernel
  rw [claimed _ _ decodes] at fruitless
  cases fruitless

end Client

end OrgFederation

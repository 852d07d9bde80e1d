import OrgFederation.Proofs.Account.Endings

namespace OrgFederation

namespace Receipt

/-- The seconds for which the service lets a token hold. -/
def lifetime (receipt : Receipt) : Nat :=
  receipt.grant.expiresIn.getD TokenGrant.usualLifetime

/-- At a time a token is used when it came less than its lifetime before, a margin aside. -/
def Fresh (receipt : Receipt) (now : Instant) : Prop :=
  now.nanoseconds <
    receipt.time.nanoseconds + max 0 ((receipt.lifetime : Int) - 60) * 1000000000

/-- The time of a token tells whether it is still used. -/
theorem lt_refreshAt_iff {receipt : Receipt} {token : Token} (held : receipt.token? = some token)
    (now : Instant) : now < token.refreshAt ↔ receipt.Fresh now := by
  obtain ⟨refreshAt, within, rfl⟩ := Option.map_eq_some_iff.mp held
  rw [Instant.after?] at within
  split at within
  · cases within
    have seconds : ((receipt.lifetime - 60 : Nat) : Int) =
        max 0 ((receipt.lifetime : Int) - 60) := by omega
    rw [Fresh, ← seconds]
    rfl
  · cases within

end Receipt

/-- The token that came with some events: the clock is read once it is there. -/
def receipt? : List Http.Event → Option Receipt
  | .exchange sent :: .reading time :: _ => sent.grant?.map (⟨·, time⟩)
  | _ :: rest => receipt? rest
  | [] => none

/-- The receipt of a token that is held from then on. -/
def obtained? (events : List Http.Event) : Option Receipt :=
  (receipt? events).filter fun receipt => receipt.token?.isSome

theorem obtained_of_unseen {events : List Http.Event} (unseen : receipt? events = none) :
    obtained? events = none := by
  rw [obtained?, unseen]
  rfl

theorem obtained_of_came {events : List Http.Event} {receipt : Receipt}
    (came : receipt? events = some receipt) :
    obtained? events = if receipt.token?.isSome then some receipt else none := by
  rw [obtained?, came]
  rfl

/-- A token is obtained when it can be held. -/
theorem held_of_obtained {events : List Http.Event} {receipt : Receipt}
    (obtained : obtained? events = some receipt) : ∃ token, receipt.token? = some token :=
  Option.isSome_iff_exists.mp (Option.filter_eq_some_iff.mp obtained).2

namespace Client

/-- No token comes with a look. -/
theorem Looks.receipt_append {held : Option Token} {looked : List Http.Event}
    {found : Option String} (looks : Looks held looked found) (rest : List Http.Event) :
    receipt? (looked ++ rest) = receipt? rest := by
  cases looks <;> rfl

/-- A token that is granted comes with the reading behind it. -/
theorem receipt_of_granted {asked : Http.Exchange} {receipt : Receipt}
    (granted : asked.Tells TokenGrant.codec (.ok receipt.grant)) :
    receipt? [.exchange asked, .reading receipt.time] = some receipt := by
  rw [receipt?, granted.grant_eq]
  rfl

theorem Receives.receipt_cons {held left : Option Token} {asked : Http.Exchange}
    {read : List Http.Event} {result : Except CallFailure String}
    (receives : Receives held asked read result left) :
    (receipt? (.exchange asked :: read)).map Receipt.grant = asked.grant? := by
  cases receives with
  | nothing refused => rw [refused.grant_eq]; rfl
  | endless granted beyond => rw [receipt_of_granted granted, granted.grant_eq]; rfl
  | token granted within => rw [receipt_of_granted granted, granted.grant_eq]; rfl

section

variable {base : Url} {credentials : Credentials} {held left : Option Token}
  {events : List Http.Event} {result : Except CallFailure String}

/-- What the first request is granted is what comes. -/
theorem Gains.granted (gains : Gains base credentials held events result left) :
    (receipt? events).map Receipt.grant =
      (Http.exchanges events).head?.bind Http.Exchange.grant? := by
  cases gains with
  | reused looks =>
      have unseen := looks.receipt_append []
      rw [List.append_nil] at unseen
      rw [unseen, looks.exchanges_eq]
      rfl
  | asked looks asks =>
      rw [looks.receipt_append, Http.exchanges_append, looks.exchanges_eq, List.nil_append]
      cases asks with
      | unsent unserved => rfl
      | sent place serves receives => exact receives.receipt_cons

/-- What a client has come to, by the token that it held before and the one that came. -/
inductive Gained (held : Option Token) (events : List Http.Event) :
    Except CallFailure String → Option Token → Prop
  | reused {token : Token} (early : Early held events) (holds : held = some token)
      (unseen : receipt? events = none) : Gained held events (.ok token.value) held
  | nothing {cause : CallError} (late : ¬Early held events) (unseen : receipt? events = none) :
      Gained held events (.error (.reported cause)) held
  | endless {receipt : Receipt} (late : ¬Early held events) (came : receipt? events = some receipt)
      (beyond : receipt.token? = none) : Gained held events (.error .clockOverflow) held
  | token {receipt : Receipt} {token : Token} (late : ¬Early held events)
      (came : receipt? events = some receipt) (within : receipt.token? = some token) :
      Gained held events (.ok token.value) (some token)

theorem Gains.gained (gains : Gains base credentials held events result left) :
    Gained held events result left := by
  cases gains with
  | reused looks =>
      obtain ⟨early, holding, holds, rfl⟩ := looks.is_early
      have unseen := looks.receipt_append []
      rw [List.append_nil] at unseen
      exact .reused early holds unseen
  | asked looks asks =>
      have late := looks.not_early
      have same := looks.receipt_append
      cases asks with
      | unsent unserved => exact .nothing (late _) (same _)
      | sent place serves receives =>
          cases receives with
          | nothing refused => exact .nothing (late _) (same _)
          | endless granted beyond =>
              exact .endless (late _) ((same _).trans (receipt_of_granted granted)) beyond
          | token granted within =>
              exact .token (late _) ((same _).trans (receipt_of_granted granted)) within

end

/-- The token requests among some events: they are the ones that post something. -/
def asks (events : List Http.Event) : List Http.Exchange :=
  (Http.exchanges events).filter fun sent => sent.request.method = .post

/-- The requests of calls among some events. -/
def sends (events : List Http.Event) : List Http.Exchange :=
  (Http.exchanges events).filter fun sent => sent.request.method ≠ .post

theorem asks_append (first second : List Http.Event) :
    asks (first ++ second) = asks first ++ asks second := by
  simp [asks]

theorem sends_append (first second : List Http.Event) :
    sends (first ++ second) = sends first ++ sends second := by
  simp [sends]

/-- No token comes with a request that nothing is read behind. -/
theorem receipt_concat (events : List Http.Event) (sent : Http.Exchange) :
    receipt? (events ++ [.exchange sent]) = receipt? events := by
  induction events with
  | nil => rfl
  | cons event rest ih =>
      cases event with
      | reading time => exact ih
      | exchange asked =>
          cases rest with
          | nil => rfl
          | cons next rest =>
              cases next with
              | reading time => rfl
              | exchange later => exact ih

section

variable {base : Url} {credentials : Credentials} {held left : Option Token}
  {events own : List Http.Event} {found : Except CallFailure String} {call : Call} {token : String}
  {result : Except CallFailure call.Answer}

/-- All that is sent for a token are token requests. -/
theorem Gains.only_asks (gains : Gains base credentials held events found left) :
    asks events = Http.exchanges events ∧ sends events = [] := by
  rcases gains.exchanges_cases with ⟨-, none⟩ | ⟨-, asked, url, one, -, request⟩
  · simp [asks, sends, none]
  · have post : asked.request.method = .post := request ▸ tokenRequest_method credentials url
    simp [asks, sends, one, post]

/-- Behind its token a call sends its own request at most. -/
theorem Sends.only_sends (sending : Sends base call token own result) :
    asks own = [] ∧ sends own = Http.exchanges own := by
  cases sending with
  | unsendable cannot => exact ⟨rfl, rfl⟩
  | sent place can tells =>
      simp [asks, sends, Http.exchanges, Http.Event.exchange?, callRequest_method_ne_post]

/-- A call is sent when its token can be carried and something can be sent. -/
theorem Sends.sent_iff (sending : Sends base call token own result) :
    Http.exchanges own ≠ [] ↔ Http.isValue token = true ∧ base.Serves := by
  cases sending with
  | unsendable cannot => simp [Http.exchanges, cannot]
  | sent place can tells => simp [Http.exchanges, Http.Event.exchange?, can]

theorem Sends.receipt_append (sending : Sends base call token own result) (events) :
    receipt? (events ++ own) = receipt? events := by
  cases sending with
  | unsendable cannot => rw [List.append_nil]
  | sent place can tells => exact receipt_concat events _

theorem Sends.early_append (sending : Sends base call token own result) (events) :
    Early held (events ++ own) ↔ Early held events := by
  have unread (now : Instant) : own.head? ≠ some (.reading now) := by
    cases sending <;> simp
  cases events with
  | nil => simp [Early, unread]
  | cons event rest => simp [Early]

/-- A token that came and can be held takes the place of the one that was held. -/
theorem Gained.left_eq (gained : Gained held events found left) :
    left = ((obtained? events).bind Receipt.token?).or held := by
  cases gained with
  | reused early holds unseen => simp [obtained_of_unseen unseen]
  | nothing late unseen => simp [obtained_of_unseen unseen]
  | endless late came beyond => simp [obtained_of_came came, beyond]
  | token late came within => simp [obtained_of_came came, within]

/-- A client comes to a token when the held one is early or a new one can be held. -/
theorem Gained.isOk_iff (gained : Gained held events found left) :
    (∃ value, found = .ok value) ↔ Early held events ∨ (obtained? events).isSome = true := by
  cases gained with
  | reused early holds unseen => simp [early]
  | nothing late unseen => simp [late, obtained_of_unseen unseen]
  | endless late came beyond => simp [late, obtained_of_came came, beyond]
  | token late came within => simp [obtained_of_came came, within]

/-- A client comes to no end exactly when a token came that cannot be held. -/
theorem Gained.endless_iff (gained : Gained held events found left) :
    found = .error .clockOverflow ↔
      ∃ receipt, receipt? events = some receipt ∧ receipt.token? = none := by
  cases gained with
  | reused early holds unseen => simp [unseen]
  | nothing late unseen => simp [unseen]
  | endless late came beyond => simp [came, beyond]
  | token late came within => simp [came, within]

/-- Behind a call the newest token is held. -/
theorem Course.left_eq (course : Course base credentials call held events result left) :
    left = ((obtained? events).bind Receipt.token?).or held := by
  cases course with
  | unplaced unserved => rfl
  | tokenless gains => exact gains.gained.left_eq
  | prepared gains sending =>
      rw [obtained?, sending.receipt_append]
      exact gains.gained.left_eq

/-- A token is asked for exactly when something can be sent and the held one is not early. -/
theorem Gains.asks_iff (gains : Gains base credentials held events found left) :
    asks events ≠ [] ↔ base.Serves ∧ ¬Early held events := by
  rw [gains.only_asks.1]
  rcases gains.exchanges_cases with ⟨unasked, none⟩ | ⟨⟨late, serves⟩, asked, url, one, -⟩
  · rw [none]
    grind
  · simp [one, late, serves]

theorem Course.asks_iff (course : Course base credentials call held events result left) :
    asks events ≠ [] ↔ base.Serves ∧ ¬Early held events := by
  cases course with
  | unplaced unserved => simp [asks, Http.exchanges, unserved]
  | tokenless gains => exact gains.asks_iff
  | prepared gains sending =>
      rw [asks_append, sending.only_sends.1, List.append_nil, sending.early_append]
      exact gains.asks_iff

/-- A token is asked for once. -/
theorem Gains.asks_once (gains : Gains base credentials held events found left)
    {asked : Http.Exchange} (listed : asked ∈ asks events) : Http.exchanges events = [asked] ∧
      ∃ url, base.below? tokenPath = some url ∧ asked.request = tokenRequest credentials url := by
  rw [gains.only_asks.1] at listed
  rcases gains.exchanges_cases with ⟨-, none⟩ | ⟨-, other, url, one, place, request⟩
  · rw [none] at listed
    cases listed
  · rw [one] at listed
    cases List.mem_singleton.mp listed
    exact ⟨one, url, place, request⟩

/-- A token is asked for once and before all else. -/
theorem Course.asks_once (course : Course base credentials call held events result left)
    {asked : Http.Exchange} (listed : asked ∈ asks events) :
    asks events = [asked] ∧ (Http.exchanges events).head? = some asked ∧
      ∃ url, base.below? tokenPath = some url ∧ asked.request = tokenRequest credentials url := by
  cases course with
  | unplaced unserved => cases listed
  | tokenless gains =>
      obtain ⟨one, request⟩ := gains.asks_once listed
      exact ⟨gains.only_asks.1.trans one, by rw [one]; rfl, request⟩
  | prepared gains sending =>
      rw [asks_append, sending.only_sends.1, List.append_nil] at listed ⊢
      obtain ⟨one, request⟩ := gains.asks_once listed
      refine ⟨gains.only_asks.1.trans one, ?_, request⟩
      rw [Http.exchanges_append, one]
      rfl

/-- What a token request is granted is what comes with a call. -/
theorem Course.granted (course : Course base credentials call held events result left) :
    (receipt? events).map Receipt.grant = (asks events).head?.bind Http.Exchange.grant? := by
  cases course with
  | unplaced unserved => rfl
  | tokenless gains =>
      rw [gains.only_asks.1]
      exact gains.granted
  | prepared gains sending =>
      rw [sending.receipt_append, asks_append, sending.only_sends.1, List.append_nil,
        gains.only_asks.1]
      exact gains.granted

/-- Below a base that does not serve nothing is sent. -/
theorem Gains.unserved (gains : Gains base credentials held events found left)
    (unserved : ¬base.Serves) : Http.exchanges events = [] := by
  rcases gains.exchanges_cases with ⟨-, none⟩ | ⟨⟨-, serves⟩, -⟩
  · exact none
  · exact absurd serves unserved

theorem Course.unserved (course : Course base credentials call held events result left)
    (unserved : ¬base.Serves) : Http.exchanges events = [] := by
  cases course with
  | unplaced _ => rfl
  | tokenless gains => exact gains.unserved unserved
  | prepared gains sending =>
      rw [Http.exchanges_append, gains.unserved unserved, List.nil_append]
      by_contra sent
      exact unserved (sending.sent_iff.mp sent).2

/-- The clock is read first for a token that is held. -/
theorem Gains.reads {token : Token}
    (gains : Gains base credentials (some token) events found left) :
    ∃ now rest, events = .reading now :: rest := by
  cases gains with
  | reused looks =>
      obtain ⟨now, rfl⟩ := looks.reads
      exact ⟨now, _, rfl⟩
  | asked looks asks =>
      obtain ⟨now, rfl⟩ := looks.reads
      exact ⟨now, _, rfl⟩

theorem Course.reads {token : Token}
    (course : Course base credentials call (some token) events result left) (serves : base.Serves) :
    ∃ now, events.head? = some (.reading now) := by
  cases course with
  | unplaced unserved => exact absurd serves unserved
  | tokenless gains =>
      obtain ⟨now, rest, rfl⟩ := gains.reads
      exact ⟨now, rfl⟩
  | prepared gains sending =>
      obtain ⟨now, rest, rfl⟩ := gains.reads
      exact ⟨now, rfl⟩

/-- A call is sent once, and with the token that is held behind it. -/
theorem Course.sent (course : Course base credentials call held events result left)
    {sent : Http.Exchange} (listed : sent ∈ sends events) :
    sends events = [sent] ∧ ∃ url token, base.below? call.path = some url ∧ left = some token ∧
      sent.request = callRequest call url token.value := by
  cases course with
  | unplaced unserved => cases listed
  | tokenless gains =>
      rw [gains.only_asks.2] at listed
      cases listed
  | prepared gains sending =>
      rw [sends_append, gains.only_asks.2, sending.only_sends.2, List.nil_append] at listed ⊢
      cases sending with
      | unsendable cannot => cases listed
      | sent place can tells =>
          cases List.mem_singleton.mp listed
          obtain ⟨token, held, rfl⟩ := gains.is_held
          exact ⟨rfl, _, token, place, held, rfl⟩

/-- A call is sent exactly when something can be sent, a held token is early or a new one is held,
and the token can be carried. -/
theorem Course.sends_iff (course : Course base credentials call held events result left) :
    sends events ≠ [] ↔ base.Serves ∧ (Early held events ∨ (obtained? events).isSome = true) ∧
      ∃ token, left = some token ∧ Http.isValue token.value = true := by
  cases course with
  | unplaced unserved => simp [sends, Http.exchanges, unserved]
  | tokenless gains =>
      rw [gains.only_asks.2, ← gains.gained.isOk_iff]
      simp
  | prepared gains sending =>
      obtain ⟨token, holds, rfl⟩ := gains.is_held
      have gained := gains.gained.isOk_iff.mp ⟨_, rfl⟩
      rw [sends_append, gains.only_asks.2, sending.only_sends.2, List.nil_append,
        sending.early_append, obtained?, sending.receipt_append, ← obtained?, sending.sent_iff]
      constructor
      · rintro ⟨valid, serves⟩
        exact ⟨serves, gained, token, holds, valid⟩
      · rintro ⟨serves, -, other, same, valid⟩
        cases holds.symm.trans same
        exact ⟨valid, serves⟩

/-- A call comes to no end exactly when a token came that cannot be held. -/
theorem Course.endless_iff (course : Course base credentials call held events result left) :
    result = .error .clockOverflow ↔
      ∃ receipt, receipt? events = some receipt ∧ receipt.token? = none := by
  cases course with
  | unplaced unserved => simp [receipt?, transportFailure]
  | tokenless gains =>
      rw [← gains.gained.endless_iff]
      simp
  | prepared gains sending =>
      rw [sending.receipt_append, ← gains.gained.endless_iff]
      exact iff_of_false sending.returns fun same => by cases same

/-- A call that is not sent fails. -/
theorem Course.fails (course : Course base credentials call held events result left)
    (unsent : sends events = []) : ∃ failure, result = .error failure := by
  cases course with
  | unplaced unserved => exact ⟨_, rfl⟩
  | tokenless gains => exact ⟨_, rfl⟩
  | prepared gains sending =>
      rw [sends_append, gains.only_asks.2, sending.only_sends.2, List.nil_append] at unsent
      cases sending with
      | unsendable cannot => exact ⟨_, rfl⟩
      | sent place can tells => cases unsent

end

end Client

end OrgFederation

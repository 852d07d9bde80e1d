import OrgFederation.Proofs.Account.Receipts

namespace OrgFederation.Client

variable {ω : Type}

/-- A call of a client: the token that is held before it, what is seen of it, how it ends, and the
token that is held behind it. -/
structure Round where
  call : Call
  held : Option Token
  events : List Http.Event
  result : Except CallFailure call.Answer
  left : Option Token

/-- The newest token that some rounds have obtained. -/
def newest? (rounds : List Round) : Option Receipt :=
  (rounds.filterMap fun made => obtained? made.events).getLast?

theorem newest_concat (earlier : List Round) (made : Round) :
    newest? (earlier ++ [made]) = (obtained? made.events).or (newest? earlier) :=
  getLast_filterMap_concat _ earlier made

theorem held_of_newest {rounds : List Round} {receipt : Receipt}
    (newest : newest? rounds = some receipt) : ∃ token, receipt.token? = some token := by
  obtain ⟨made, -, obtained⟩ := List.mem_filterMap.mp (List.mem_of_getLast? newest)
  exact held_of_obtained obtained

/-- How tokens live: what a call does with those that the calls before it have obtained. -/
structure Round.Lives (base : Url) (credentials : Credentials) (earlier : List Round)
    (made : Round) : Prop where
  /-- The newest token is held. -/
  held : made.held = (newest? earlier).bind Receipt.token?
  left : made.left = (newest? (earlier ++ [made])).bind Receipt.token?
  unserved : ¬base.Serves → Http.exchanges made.events = []
  /-- Without a token one is asked for. -/
  first : base.Serves → newest? earlier = none → asks made.events ≠ []
  /-- The newest token is used for its lifetime, less the margin, and no longer. -/
  reused_iff : base.Serves → ∀ receipt, newest? earlier = some receipt →
    ∃ now, made.events.head? = some (.reading now) ∧ (asks made.events = [] ↔ receipt.Fresh now)
  /-- A token is asked for once, before all else. -/
  asked : ∀ asked ∈ asks made.events, asks made.events = [asked] ∧
    (Http.exchanges made.events).head? = some asked ∧
    ∃ url, base.below? tokenPath = some url ∧ asked.request = tokenRequest credentials url
  granted : (receipt? made.events).map Receipt.grant =
    (asks made.events).head?.bind Http.Exchange.grant?
  /-- The call is sent once, with the newest token. -/
  sent : ∀ sent ∈ sends made.events, sends made.events = [sent] ∧
    ∃ url receipt, base.below? made.call.path = some url ∧
      newest? (earlier ++ [made]) = some receipt ∧
      sent.request = callRequest made.call url receipt.grant.accessToken
  /-- The call is not sent when a token was asked for in vain, or when its token cannot be carried. -/
  sends_iff : sends made.events ≠ [] ↔ base.Serves ∧
    (asks made.events = [] ∨ (obtained? made.events).isSome = true) ∧
    ∃ receipt, newest? (earlier ++ [made]) = some receipt ∧
      Http.isValue receipt.grant.accessToken = true
  /-- A call that is not sent reports a failure, if it returns. -/
  fails : sends made.events = [] → made.result ≠ .error .clockOverflow →
    ∃ cause, made.result = .error (.reported cause)
  /-- A token that was asked for in vain leaves the one that is held. -/
  kept : (∀ asked ∈ asks made.events, asked.grant? = none) → made.left = made.held
  /-- A call never returns exactly when the time of its token is beyond the clock. -/
  endless_iff : made.result = .error .clockOverflow ↔
    ∃ receipt, receipt? made.events = some receipt ∧ receipt.token? = none

section

variable {base : Url} {credentials : Credentials} {earlier : List Round} {made : Round}

/-- The newest token is held behind a course that starts with it. -/
theorem Course.left_newest
    (course : Course base credentials made.call made.held made.events made.result made.left)
    (held : made.held = (newest? earlier).bind Receipt.token?) :
    made.left = (newest? (earlier ++ [made])).bind Receipt.token? := by
  rw [course.left_eq, held, newest_concat]
  cases obtained : obtained? made.events with
  | none => rfl
  | some receipt =>
      obtain ⟨token, within⟩ := held_of_obtained obtained
      show (receipt.token?).or _ = receipt.token?
      rw [within]
      rfl

/-- The newest token is early in a course that starts with it exactly while it is fresh. -/
theorem Course.early_iff
    (course : Course base credentials made.call made.held made.events made.result made.left)
    (held : made.held = (newest? earlier).bind Receipt.token?) (serves : base.Serves)
    {receipt : Receipt} (newest : newest? earlier = some receipt) :
    ∃ now, made.events.head? = some (.reading now) ∧
      (Early made.held made.events ↔ receipt.Fresh now) := by
  obtain ⟨token, within⟩ := held_of_newest newest
  have holds : made.held = some token := by rw [held, newest]; exact within
  rw [holds] at course ⊢
  obtain ⟨now, first⟩ := course.reads serves
  refine ⟨now, first, ?_⟩
  rw [← Receipt.lt_refreshAt_iff within]
  simp [Early, first]

/-- Tokens live on through a course that starts with the newest one. -/
theorem Course.lives
    (course : Course base credentials made.call made.held made.events made.result made.left)
    (held : made.held = (newest? earlier).bind Receipt.token?) :
    made.Lives base credentials earlier := by
  have left := course.left_newest held
  have unasked (serves : base.Serves) : asks made.events = [] ↔ Early made.held made.events := by
    rw [← not_iff_not, ← ne_eq, course.asks_iff]
    exact and_iff_right serves
  constructor
  case held => exact held
  case left => exact left
  case unserved => exact course.unserved
  case first =>
    intro serves none
    rw [none] at held
    rw [course.asks_iff, held]
    exact ⟨serves, by simp [Early]⟩
  case reused_iff =>
    intro serves receipt newest
    rw [unasked serves]
    exact course.early_iff held serves newest
  case asked => exact fun asked => course.asks_once
  case granted => exact course.granted
  case sent =>
    intro sent listed
    obtain ⟨one, url, token, place, holds, request⟩ := course.sent listed
    obtain ⟨receipt, newest, within⟩ := Option.bind_eq_some_iff.mp (left.symm.trans holds)
    rw [Receipt.value_of_token within] at request
    exact ⟨one, url, receipt, place, newest, request⟩
  case sends_iff =>
    rw [course.sends_iff, left]
    refine and_congr_right fun serves => and_congr (or_congr (unasked serves).symm .rfl) ?_
    constructor
    · rintro ⟨token, holds, valid⟩
      obtain ⟨receipt, newest, within⟩ := Option.bind_eq_some_iff.mp holds
      rw [Receipt.value_of_token within] at valid
      exact ⟨receipt, newest, valid⟩
    · rintro ⟨receipt, newest, valid⟩
      obtain ⟨token, within⟩ := held_of_newest newest
      rw [← Receipt.value_of_token within] at valid
      exact ⟨token, Option.bind_eq_some_iff.mpr ⟨receipt, newest, within⟩, valid⟩
  case fails =>
    intro unsent returns
    obtain ⟨failure, failed⟩ := course.fails unsent
    cases failure with
    | reported cause => exact ⟨cause, failed⟩
    | clockOverflow => exact absurd failed returns
  case kept =>
    intro vain
    have unseen : receipt? made.events = none := by
      have granted := course.granted
      cases asked : asks made.events with
      | nil => simpa [asked] using granted
      | cons first rest =>
          have refused := vain first (by simp [asked])
          simpa [asked, refused] using granted
    rw [course.left_eq, obtained_of_unseen unseen]
    rfl
  case endless_iff => exact course.endless_iff

end

variable (network : Http.Network ω) (base : Url)

/-- A call with what is seen of it, and the work behind it. -/
def round (call : Call) (work : ClientWork ω) : Round × ClientWork ω :=
  let (result, later) :=
    (perform network.observed base call).run ⟨work.client, (work.network, [])⟩
  (⟨call, work.client.token, later.network.2, result, later.client.token⟩,
    ⟨later.client, later.network.1⟩)

/-- Calls of one client, one after the other. -/
def rounds : List Call → ClientWork ω → List Round
  | [], _ => []
  | call :: rest, work =>
      let (first, later) := round network base call work
      first :: rounds rest later

/-- A round takes one of the courses of a call, and changes no more of its client than the token. -/
theorem round_course {call : Call} {work next : ClientWork ω} {made : Round}
    (ran : round network base call work = (made, next)) :
    made.held = work.client.token ∧ next.client = { work.client with token := made.left } ∧
      Course base work.client.credentials made.call made.held made.events made.result made.left := by
  obtain ⟨events, result, left, later, ended, goes, course⟩ :=
    perform_takes network.observed base call ⟨work.client, (work.network, [])⟩
  have seen : later.2 = events := goes.observed
  rw [round, ended] at ran
  cases ran
  subst seen
  exact ⟨rfl, rfl, course⟩

/-- Tokens live on through calls that start with the newest one. -/
theorem rounds_live {calls : List Call} {work : ClientWork ω} {before earlier later : List Round}
    {made : Round} (held : work.client.token = (newest? before).bind Receipt.token?)
    (split : rounds network base calls work = earlier ++ made :: later) :
    made.Lives base work.client.credentials (before ++ earlier) := by
  -- The client holds what the rounds before have obtained last; each round keeps it so.
  induction calls generalizing work before earlier with
  | nil => simp [rounds] at split
  | cons call rest ih =>
      rw [rounds] at split
      cases ran : round network base call work with
      | mk first next =>
          obtain ⟨same, client, course⟩ := round_course network base ran
          have lives := course.lives (same.trans held)
          rw [ran] at split
          dsimp only at split
          cases earlier with
          | nil =>
              obtain ⟨rfl, -⟩ := List.cons.inj split
              rwa [List.append_nil]
          | cons second earlier =>
              obtain ⟨rfl, behind⟩ := List.cons.inj split
              have held := (congrArg Client.token client).trans lives.left
              have further := ih held behind
              rw [client, List.append_assoc] at further
              exact further

/-- Tokens live through all the calls of a new client, over any network and with any clock: a token is
used for its lifetime, less the margin, until a newer one is obtained. -/
theorem tokens_live {calls : List Call} {serial : Nat} {credentials : Credentials} {state : ω}
    {earlier later : List Round} {made : Round}
    (split : rounds network base calls ⟨.fresh serial credentials, state⟩ =
      earlier ++ made :: later) : made.Lives base credentials earlier := by
  have held : (fresh serial credentials).token = (newest? []).bind Receipt.token? := rfl
  exact rounds_live network base held split

/-- Calls of one client, over a server with a script. -/
def scriptedRounds (answers : List Http.ScriptedAnswer) (calls : List Call) : List Round :=
  rounds Http.Script.network cloudUrl calls
    ⟨.fresh 0 ⟨"org-1", "mdb_sa_id", "s3cr3t"⟩, ⟨true, answers, [], ⟨0⟩⟩⟩

/-- A token that is used once, and one that lasts. -/
def lastingRounds : List Round :=
  scriptedRounds
    [.respond ⟨200, Text.Utf8.encode "\x7b\"access_token\":\"tok-1\",\"expires_in\":30\x7d"⟩ false,
      .respond ⟨200, Text.Utf8.encode "\x7b\"id\":\"fs-1\"\x7d"⟩ false,
      .respond ⟨200, Text.Utf8.encode "\x7b\"access_token\":\"tok-2\"\x7d"⟩ false,
      .respond ⟨404, []⟩ false]
    [.federationSettings "org-1", .projectByName "payments", .projectByName "ledger"]

/-- The token that the second call obtains is used by the third. -/
theorem tokens_live_lasting : ∃ first second third, lastingRounds = [first, second] ++ third :: [] ∧
    (asks first.events).length = 1 ∧ (asks second.events).length = 1 ∧ asks third.events = [] ∧
    third.Lives cloudUrl ⟨"org-1", "mdb_sa_id", "s3cr3t"⟩ [first, second] := by
  have asked : lastingRounds.map (fun made => (asks made.events).length) = [1, 1, 0] := by
    decide +kernel
  obtain ⟨first, behind, split, one, asked⟩ := List.map_eq_cons_iff.mp asked
  obtain ⟨second, rest, rfl, two, asked⟩ := List.map_eq_cons_iff.mp asked
  obtain ⟨third, last, rfl, none, asked⟩ := List.map_eq_cons_iff.mp asked
  cases List.map_eq_nil_iff.mp asked
  exact ⟨first, second, third, split, one, two, List.length_eq_zero_iff.mp none,
    tokens_live Http.Script.network cloudUrl split⟩

/-- A token that is granted for longer than the clock can count. -/
def endlessRounds : List Round :=
  scriptedRounds
    [.respond ⟨200, Text.Utf8.encode
        "\x7b\"access_token\":\"tok\",\"expires_in\":18446744073709551615\x7d"⟩ false,
      .respond ⟨200, Text.Utf8.encode "\x7b\"id\":\"fs-1\"\x7d"⟩ false,
      .respond ⟨200, Text.Utf8.encode "\x7b\"id\":\"fs-1\"\x7d"⟩ false]
    [.federationSettings "org-1", .federationSettings "org-1"]

/-- A token that was granted is asked for again, though its lifetime has hardly begun. -/
theorem endless_token_unused : ¬∀ earlier made later, endlessRounds = earlier ++ made :: later →
    ∀ receipt, (earlier.filterMap fun before => receipt? before.events).getLast? = some receipt →
      (asks made.events = [] ↔ receipt.Fresh ⟨0⟩) := by
  intro claimed
  have seen : endlessRounds.map (fun made => (receipt? made.events, (asks made.events).length)) =
      [(some ⟨⟨"tok", some 18446744073709551615⟩, ⟨0⟩⟩, 1), (none, 1)] := by decide +kernel
  obtain ⟨first, behind, split, granted, seen⟩ := List.map_eq_cons_iff.mp seen
  obtain ⟨second, rest, rfl, asked, -⟩ := List.map_eq_cons_iff.mp seen
  have came := (Prod.mk.inj granted).1
  have newest : ([first].filterMap fun before => receipt? before.events).getLast? =
      some ⟨⟨"tok", some 18446744073709551615⟩, ⟨0⟩⟩ := by simp [came]
  have fresh : Receipt.Fresh ⟨⟨"tok", some 18446744073709551615⟩, ⟨0⟩⟩ ⟨0⟩ := by
    rw [Receipt.Fresh]
    decide
  have unasked := (claimed [first] second rest split _ newest).mpr fresh
  have one := (Prod.mk.inj asked).2
  rw [unasked] at one
  cases one

end OrgFederation.Client

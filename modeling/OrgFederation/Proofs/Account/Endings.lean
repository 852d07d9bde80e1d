import OrgFederation.Pass.ProjectIds
import OrgFederation.Proofs.Account.Exchanges

namespace OrgFederation

variable {ω α : Type}

namespace Http

namespace Response

/-- An answer says that an entity is missing: it is no success, and its status is 404 or its body
has one of the codes for this. -/
structure TellsMissing (response : Response) (detail : String) : Prop where
  unsuccessful : isSuccess response.status = false
  missing : response.status = 404 ∨
    (FailureBody.ofBytes response.body).errorCode.getD "" ∈ CallError.notFoundCodes
  told : response.failure = .notFound detail

theorem missing_of_failure {response : Response} {detail : String}
    (told : response.failure = .notFound detail) : response.status = 404 ∨
      (FailureBody.ofBytes response.body).errorCode.getD "" ∈ CallError.notFoundCodes := by
  rw [failure, CallError.ofResponse] at told
  split at told
  · assumption
  · cases told

/-- An answer is read as a missing entity exactly when it says so, whatever was asked for. -/
theorem read_eq_notFound_iff {codec : Json.Codec α} {response : Response} {detail : String} :
    response.read codec = .error (.notFound detail) ↔ response.TellsMissing detail := by
  rw [read]
  split
  · next success =>
      constructor
      · intro same
        cases decoded : (Json.Document.ofBytes response.body).decode codec.decode with
        | ok value =>
            rw [decoded] at same
            cases same
        | error problem =>
            rw [decoded] at same
            cases same
      · intro tells
        rw [tells.unsuccessful] at success
        cases success
  · next unsuccessful =>
      constructor
      · intro same
        have told : response.failure = .notFound detail := Except.error.inj same
        exact ⟨by simpa using unsuccessful, missing_of_failure told, told⟩
      · intro tells
        rw [tells.told]

/-- Only a success is read as a value. -/
theorem isSuccess_of_read {codec : Json.Codec α} {response : Response} {value : α}
    (reads : response.read codec = .ok value) : isSuccess response.status = true := by
  rw [read] at reads
  split at reads
  · assumption
  · cases reads

end Response

/-- A request is made with a method that stays its own. -/
theorem Request.method_to (method : Method) (url : Url) (headers : Headers) (body : String) :
    (Request.to method url headers body).method = method := by
  rw [Request.to]
  split <;> rfl

/-- Every one of some exchanges brought a token for credentials. -/
def AllGrant (credentials : Credentials) (exchanges : List Exchange) : Prop :=
  ∀ exchange ∈ exchanges, ∃ token, exchange.Grants credentials token

/-- No answer in some exchanges brought anything but a token for credentials. -/
def OnlyGrant (credentials : Credentials) (exchanges : List Exchange) : Prop :=
  ∀ exchange ∈ exchanges, ∀ response, exchange.delivery = .answered response →
    ∃ token, exchange.Grants credentials token

variable {credentials : Credentials} {exchanges : List Exchange}

theorem OnlyGrant.nil : OnlyGrant credentials [] := by
  intro exchange listed
  cases listed

theorem AllGrant.only (grants : AllGrant credentials exchanges) : OnlyGrant credentials exchanges :=
  fun exchange listed _ _ => grants exchange listed

/-- An exchange without an answer brought nothing. -/
theorem OnlyGrant.unanswered {request : Request} {delivery : Delivery}
    (silent : ∀ response, delivery ≠ .answered response) :
    OnlyGrant credentials [⟨request, delivery⟩] := by
  intro exchange listed response answered
  rw [List.mem_singleton.mp listed] at answered
  exact absurd answered (silent response)

/-- A token comes with a success. -/
theorem isSuccess_of_grants {exchange : Exchange} {token : String} {response : Response}
    (grants : exchange.Grants credentials token)
    (answered : exchange.delivery = .answered response) :
    isSuccess response.status = true := by
  obtain ⟨_, _, grant, -, delivered, reads, -⟩ := grants
  rw [answered] at delivered
  cases delivered
  exact Response.isSuccess_of_read reads

end Http

/-- A failure that tells nothing about an entity: the clock gave out, or a request was not carried
out. -/
def CallFailure.Mute (failure : CallFailure) : Prop :=
  failure = .clockOverflow ∨ ∃ detail, failure = Client.transportFailure detail

theorem CallFailure.Mute.ne_notFound {failure : CallFailure} (mute : failure.Mute)
    (detail : String) : failure ≠ .reported (.notFound detail) := by
  rcases mute with rfl | ⟨_, rfl⟩ <;> exact nofun

/-- A project is missing exactly when its lookup failed for a missing entity. -/
theorem LookupError.ofApi_eq_notFound_iff {orgId name : String} {cause : CallError} :
    ofApi orgId name cause = .notFound name orgId ↔ ∃ detail, cause = .notFound detail := by
  rw [ofApi]
  cases cause <;> simp [CallError.isNotFound]

namespace Client

/-- How a call ends: with the answer to its own request, which comes last, with a refusal of its
token request, or without an answer that tells anything. -/
inductive Ends (base : Url) (call : Call) (credentials : Credentials) :
    List Http.Exchange → Except CallFailure call.Answer → Prop
  | answered {earlier : List Http.Exchange} {url : Url} {token : String} {response : Http.Response}
      (place : base.below? call.path = some url) (grants : Http.AllGrant credentials earlier) :
      Ends base call credentials (earlier ++ [⟨callRequest call url token, .answered response⟩])
        ((response.read call.answerCodec).mapError .reported)
  | refused {url : Url} {response : Http.Response} {cause : CallError}
      (refusal : response.read TokenGrant.codec = .error cause) :
      Ends base call credentials [⟨tokenRequest credentials url, .answered response⟩]
        (.error (.reported cause))
  | broken {asked : List Http.Exchange} {failure : CallFailure}
      (only : Http.OnlyGrant credentials asked) (mute : failure.Mute) :
      Ends base call credentials asked (.error failure)

section

variable {base : Url} {credentials : Credentials} {held left : Option Token}
  {events : List Http.Event}

/-- All that is sent for a token that a client comes to brings one. -/
theorem Gains.all_grant {token : String}
    (gains : Gains base credentials held events (.ok token) left) :
    Http.AllGrant credentials (Http.exchanges events) := by
  cases gains with
  | reused looks =>
      rw [looks.exchanges_eq]
      exact List.forall_mem_nil _
  | asked looks asks =>
      rw [Http.exchanges_append, looks.exchanges_eq, List.nil_append]
      cases asks with
      | sent place serves receives =>
          cases receives with
          | token granted within => exact List.forall_mem_singleton.mpr ⟨_, grants_of_tells granted⟩

/-- A call whose client comes to no token ends with the refusal of it, or without an answer that
tells anything. -/
theorem Gains.ends {failure : CallFailure}
    (gains : Gains base credentials held events (.error failure) left) (call : Call) :
    Ends base call credentials (Http.exchanges events) (.error failure) := by
  cases gains with
  | asked looks asks =>
      rw [Http.exchanges_append, looks.exchanges_eq, List.nil_append]
      cases asks with
      | unsent unserved => exact .broken .nil (.inr ⟨_, rfl⟩)
      | sent place serves receives =>
          cases receives with
          | nothing refused =>
              cases refused with
              | silent silent => exact .broken (.unanswered silent) (.inr ⟨_, rfl⟩)
              | answered reads => exact .refused reads
          | endless granted beyond =>
              have grants : Http.AllGrant credentials [⟨tokenRequest credentials _, _⟩] :=
                List.forall_mem_singleton.mpr ⟨_, grants_of_tells granted⟩
              exact .broken grants.only (.inl rfl)

/-- A call ends in one of these ways, whatever its course. -/
theorem Course.ends {call : Call} {result : Except CallFailure call.Answer}
    (course : Course base credentials call held events result left) :
    Ends base call credentials (Http.exchanges events) result := by
  cases course with
  | unplaced unserved => exact .broken .nil (.inr ⟨_, rfl⟩)
  | tokenless gains => exact gains.ends call
  | prepared gains sends =>
      rw [Http.exchanges_append]
      have grants := gains.all_grant
      cases sends with
      | unsendable cannot =>
          exact .broken ((List.append_nil _).symm ▸ grants.only) (.inr ⟨_, rfl⟩)
      | sent place can tells =>
          cases tells with
          | silent silent =>
              refine .broken (fun exchange listed => ?_) (.inr ⟨_, rfl⟩)
              rcases List.mem_append.mp listed with before | last
              · exact grants.only exchange before
              · exact Http.OnlyGrant.unanswered silent exchange last
          | answered reads =>
              cases reads
              exact .answered place grants

end

variable (network : Http.Network ω) (base : Url)

/-- Some exchanges end with an answer that says that an entity is missing. The answer is the one to
the request of the call, or it is all that came of a token request. -/
def EndMissing (call : Call) (credentials : Credentials) (asked : List Http.Exchange)
    (detail : String) : Prop :=
  ∃ earlier request response, asked = earlier ++ [⟨request, .answered response⟩] ∧
    response.TellsMissing detail ∧
    ((∃ url token, base.below? call.path = some url ∧ request = callRequest call url token) ∨
      earlier = [] ∧ ∃ url, request = tokenRequest credentials url)

/-- The last of some exchanges is told by what they are. -/
theorem last_eq {first second : List Http.Exchange} {request other : Http.Request}
    {response answer : Http.Response}
    (same : first ++ [⟨request, .answered response⟩] = second ++ [⟨other, .answered answer⟩]) :
    request = other ∧ response = answer := by
  have last := (List.append_inj' same rfl).2
  injection List.singleton_inj.mp last with asked delivered
  injection delivered with answered
  exact ⟨asked, answered⟩

/-- A call is no token request. -/
theorem callRequest_method_ne_post (call : Call) (url : Url) (token : String) :
    (callRequest call url token).method ≠ .post := by
  rw [callRequest]
  split <;> simp [Http.Request.method_to]

theorem tokenRequest_method (credentials : Credentials) (url : Url) :
    (tokenRequest credentials url).method = .post :=
  Http.Request.method_to _ _ _ _

theorem callRequest_ne_tokenRequest (call : Call) (url : Url) (token : String)
    (credentials : Credentials) (other : Url) :
    callRequest call url token ≠ tokenRequest credentials other := by
  have post := tokenRequest_method credentials other
  intro same
  exact callRequest_method_ne_post call url token (same ▸ post)

/-- A failure that is reported was reported as just that. -/
theorem mapError_reported_iff {result : Except CallError α} {cause : CallError} :
    result.mapError CallFailure.reported = .error (.reported cause) ↔ result = .error cause := by
  cases result with
  | ok value => exact ⟨nofun, nofun⟩
  | error other =>
      have told : (Except.error other : Except CallError α).mapError CallFailure.reported =
          .error (.reported other) := rfl
      rw [told]
      simp

variable {base}

/-- A call ends with a missing entity exactly when its exchanges do. -/
theorem Ends.notFound_iff {call : Call} {credentials : Credentials} {asked : List Http.Exchange}
    {result : Except CallFailure call.Answer} (ends : Ends base call credentials asked result)
    (detail : String) : result = .error (.reported (.notFound detail)) ↔
      EndMissing base call credentials asked detail := by
  cases ends with
  | @answered earlier url token response place grants =>
      rw [mapError_reported_iff, Http.Response.read_eq_notFound_iff]
      constructor
      · exact fun tells => ⟨_, _, response, rfl, tells, .inl ⟨url, token, place, rfl⟩⟩
      · rintro ⟨_, _, answer, same, tells, -⟩
        rwa [(last_eq same).2]
  | @refused url response cause refusal =>
      have reported : (Except.error (.reported cause) : Except CallFailure call.Answer) =
          .error (.reported (.notFound detail)) ↔
            response.read TokenGrant.codec = .error (.notFound detail) := by
        rw [refusal]
        simp
      rw [reported, Http.Response.read_eq_notFound_iff]
      constructor
      · exact fun tells => ⟨[], _, response, rfl, tells, .inr ⟨rfl, url, rfl⟩⟩
      · rintro ⟨_, _, answer, same, tells, -⟩
        rwa [(@last_eq [] _ _ _ _ _ same).2]
  | broken only mute =>
      constructor
      · intro same
        exact absurd (Except.error.inj same) (mute.ne_notFound detail)
      · rintro ⟨earlier, request, response, rfl, tells, -⟩
        obtain ⟨token, grants⟩ := only ⟨request, .answered response⟩ (by simp) response rfl
        have success := Http.isSuccess_of_grants grants rfl
        rw [tells.unsuccessful] at success
        cases success

/-- The answer to the request of a call is what the call ends with. -/
theorem Ends.of_answered {call : Call} {credentials : Credentials} {earlier : List Http.Exchange}
    {url : Url} {token : String} {response : Http.Response}
    {result : Except CallFailure call.Answer}
    (ends : Ends base call credentials
      (earlier ++ [⟨callRequest call url token, .answered response⟩]) result) :
    result = (response.read call.answerCodec).mapError .reported := by
  generalize same : earlier ++ [⟨callRequest call url token, .answered response⟩] = asked at ends
  cases ends with
  | answered place grants => rw [(last_eq same).2]
  | refused refusal =>
      have asked := (@last_eq _ [] _ _ _ _ same).1
      exact absurd asked (callRequest_ne_tokenRequest call url token _ _)
  | broken only mute =>
      subst same
      obtain ⟨_, _, _, _, asked, -⟩ :=
        only ⟨callRequest call url token, .answered response⟩ (by simp) response rfl
      exact absurd asked (callRequest_ne_tokenRequest call url token _ _)

/-- A call of a client, how it ended, and the requests that were sent for it. -/
structure Attempt where
  call : Call
  result : Except CallFailure call.Answer
  exchanges : List Http.Exchange

/-- The failure that an attempt reports, if any. -/
def Attempt.failure? (attempt : Attempt) : Option CallError :=
  match attempt.result with
  | .error (.reported cause) => some cause
  | _ => none

variable (base)

/-- A call is attempted, with nothing noted before it. -/
def attempt (call : Call) (work : ClientWork ω) : Attempt × ClientWork ω :=
  let (result, later) := (perform network.recorded base call).run ⟨work.client, work.network, []⟩
  (⟨call, result, later.network.2⟩, ⟨later.client, later.network.1⟩)

/-- Calls are attempted one after the other. -/
def attempts : List Call → ClientWork ω → List Attempt
  | [], _ => []
  | call :: rest, work =>
      let (first, later) := attempt network base call work
      first :: attempts rest later

/-- An attempt ends as its call does, and the client keeps its credentials. -/
theorem attempt_ends (call : Call) (work : ClientWork ω) :
    Ends base (attempt network base call work).1.call work.client.credentials
        (attempt network base call work).1.exchanges (attempt network base call work).1.result ∧
      (attempt network base call work).2.client.credentials = work.client.credentials := by
  obtain ⟨events, result, left, later, ran, goes, course⟩ :=
    perform_takes network.recorded base call ⟨work.client, work.network, []⟩
  have noted : later.2 = Http.exchanges events := goes.recorded
  rw [attempt, ran]
  dsimp only
  rw [noted]
  exact ⟨course.ends, rfl⟩

/-- Every attempt ends in one of the ways of a call. -/
theorem attempts_end {calls : List Call} {work : ClientWork ω} {made : Attempt}
    (listed : made ∈ attempts network base calls work) :
    Ends base made.call work.client.credentials made.exchanges made.result := by
  induction calls generalizing work with
  | nil => cases listed
  | cons call rest ih =>
      obtain ⟨ends, kept⟩ := attempt_ends network base call work
      rcases List.mem_cons.mp listed with rfl | later
      · exact ends
      · rw [← kept]
        exact ih later

/-- An attempt reports a failure exactly when it ended with it. -/
theorem Attempt.failure_eq_iff {attempt : Attempt} {cause : CallError} :
    attempt.failure? = some cause ↔ attempt.result = .error (.reported cause) := by
  rw [failure?]
  split
  · next reported => simp [reported]
  · next other =>
      constructor
      · exact nofun
      · exact fun same => absurd same (other cause)

/-- An attempt says that the entity of its call is missing exactly when its last answer says so, and
this may be the answer to its own request or to the token request before it, behind which its own
request is not sent. A resolver reports a project as missing for an attempt in just these cases. -/
theorem missing_is_told {calls : List Call} {work : ClientWork ω} {made : Attempt}
    (listed : made ∈ attempts network base calls work) :
    (∀ detail, made.failure? = some (.notFound detail) ↔
      EndMissing base made.call work.client.credentials made.exchanges detail) ∧
    ∀ name orgId, made.failure?.map (LookupError.ofApi orgId name) = some (.notFound name orgId) ↔
      ∃ detail, EndMissing base made.call work.client.credentials made.exchanges detail := by
  have ends := attempts_end network base listed
  have told (detail : String) : made.failure? = some (.notFound detail) ↔
      EndMissing base made.call work.client.credentials made.exchanges detail := by
    rw [Attempt.failure_eq_iff, ends.notFound_iff]
  refine ⟨told, fun name orgId => ?_⟩
  simp only [← told, Option.map_eq_some_iff, LookupError.ofApi_eq_notFound_iff]
  constructor
  · rintro ⟨cause, failed, detail, rfl⟩
    exact ⟨detail, failed⟩
  · rintro ⟨detail, failed⟩
    exact ⟨_, failed, detail, rfl⟩

/-- A server grants a token that is used once, answers one call, and then knows no token endpoint.
-/
def forgetfulScript : Http.Script :=
  ⟨true,
    [.respond ⟨200, Text.Utf8.encode "\x7b\"access_token\":\"tok\",\"expires_in\":30\x7d"⟩ false,
      .respond ⟨200, Text.Utf8.encode "\x7b\"id\":\"fs-1\"\x7d"⟩ false,
      .respond ⟨404, []⟩ false],
    [], ⟨0⟩⟩

def cloudUrl : Url :=
  ⟨"http", some ⟨[], .name "cloud.example.com".toList, none⟩, .rooted [[]], none, none⟩

/-- Calls of one client, the second of which needs a token anew. -/
def forgottenCalls : List Attempt :=
  attempts Http.Script.network cloudUrl [.federationSettings "org-1", .projectByName "payments"]
    ⟨.fresh 0 ⟨"org-1", "mdb_sa_id", "s3cr3t"⟩, forgetfulScript⟩

/-- The second call sends a token request alone, and yet its project is reported as missing. -/
theorem exists_forgotten : ∃ made ∈ forgottenCalls, made.call.method = "project_by_name" ∧
    made.failure? = some (.notFound "Not Found") ∧
    made.exchanges.map (·.request.method) = [.post] := by
  have seen : forgottenCalls.map (fun made =>
      (made.call.method, made.failure?, made.exchanges.map (·.request.method))) =
        [("federation_settings", none, [.post, .get]),
          ("project_by_name", some (.notFound "Not Found"), [.post])] := by
    decide +kernel
  have second : ("project_by_name", some (.notFound "Not Found"), [.post]) ∈
      forgottenCalls.map fun made =>
        (made.call.method, made.failure?, made.exchanges.map (·.request.method)) := by
    rw [seen]
    simp
  obtain ⟨made, listed, same⟩ := List.mem_map.mp second
  obtain ⟨isLookup, same⟩ := Prod.mk.inj same
  obtain ⟨failed, posts⟩ := Prod.mk.inj same
  exact ⟨made, listed, isLookup, failed, posts⟩

/-- The missing project was told by the last answer. -/
theorem missing_is_told_forgotten : ∃ made ∈ forgottenCalls,
    made.failure? = some (.notFound "Not Found") ∧
      EndMissing cloudUrl made.call ⟨"org-1", "mdb_sa_id", "s3cr3t"⟩ made.exchanges "Not Found" := by
  obtain ⟨made, listed, -, failed, -⟩ := exists_forgotten
  have told := (missing_is_told Http.Script.network cloudUrl listed).1 "Not Found"
  exact ⟨made, listed, failed, told.mp failed⟩

/-- A project is reported as missing although no request for it was ever sent. -/
theorem project_missing_unasked : ¬∀ made ∈ forgottenCalls, ∀ detail,
    made.failure? = some (.notFound detail) → ∃ url token response,
      ⟨callRequest made.call url token, .answered response⟩ ∈ made.exchanges ∧
        response.TellsMissing detail := by
  intro claimed
  obtain ⟨made, listed, -, failed, posts⟩ := exists_forgotten
  obtain ⟨url, token, response, sent, -⟩ := claimed made listed _ failed
  have method : (callRequest made.call url token).method ∈
      made.exchanges.map (·.request.method) := List.mem_map_of_mem sent
  rw [posts] at method
  exact callRequest_method_ne_post _ _ _ (List.mem_singleton.mp method)

end Client

end OrgFederation

import OrgFederation.Deployment
import OrgFederation.Proofs.Account.Endings
import OrgFederation.Proofs.Management.Provider
import OrgFederation.Proofs.Pass.Rewriting

namespace OrgFederation

variable {ω : Type}

namespace Client

/-- A call whose own request was answered is replied to with what the answer is read as. -/
theorem reply_of_answered (network : Http.Network ω) (base : Url) (call : Call)
    (start : NotedWork ω) {earlier : List Http.Exchange} {url : Url} {token : String}
    {response : Http.Response}
    (noted : (reply network.recorded base call start).2.network.2 =
      start.network.2 ++ (earlier ++ [⟨callRequest call url token, .answered response⟩])) :
    (reply network.recorded base call start).1 =
      .answered (response.read call.answerCodec) false := by
  obtain ⟨events, result, left, later, ran, goes, course⟩ :=
    perform_takes network.recorded base call start
  rw [reply_state, ran, goes.recorded] at noted
  have ends := course.ends
  rw [List.append_cancel_left noted] at ends
  rw [reply, ran, ends.of_answered]
  cases response.read call.answerCodec <;> rfl

/-- The body of an update is the text of its settings. -/
theorem body_of_update (settingsId providerId : String) (settings : IdentityProviderSettings)
    (url : Url) (token : String) :
    (callRequest (.updateIdentityProvider settingsId providerId settings) url token).body =
      (IdentityProviderSettings.codec.encode settings).render := by
  show (Http.Request.to _ _ _ _).body = _
  rw [Http.Request.to]
  split <;> rfl

end Client

namespace Deployment

/-- The deployment behind calls of a client. -/
def behind (network : Http.Network ω) (base : Url) (client : Client)
    (start : Deployment (ω × List Http.Exchange)) (calls : List Call) :
    Deployment (ω × List Http.Exchange) :=
  ((remote network.recorded base client).follow (Trace.start start false) calls).state

variable {network : Http.Network ω} {base : Url} {client : Client}
  {start : Deployment (ω × List Http.Exchange)}

/-- A call of a client whose own request was answered is replied to with what the answer is read
as. -/
theorem reply_of_answered {before : List Call} {call : Call} {earlier : List Http.Exchange}
    {url : Url} {token : String} {response : Http.Response}
    (noted : (behind network base client start (before ++ [call])).network.2 =
      (behind network base client start before).network.2 ++
        (earlier ++ [⟨Client.callRequest call url token, .answered response⟩])) :
    ((remote network.recorded base client).reply call
      (behind network base client start before)).1 =
        .answered (response.read call.answerCodec) false := by
  rw [behind, Remote.follow_append, Remote.follow_cons, Remote.follow_nil, Remote.after_state,
    ← behind, Remote.next] at noted
  exact Client.reply_of_answered network base call _ noted

/-- Whatever object the service tells of an identity provider, members of any name and depth, a pass
that wants another debug flag than it has goes on to update it, and the body of the update is that
object with just the flag replaced. An id or a name of the provider that was null is left out. -/
theorem provider_is_rewritten (network : Http.Network ω) (base : Url) (client : Client)
    (spec : Spec) (orgId : String) (start : Deployment (ω × List Http.Exchange)) (cancelled : Bool)
    {before rest : List Call} {settingsId providerId : String}
    (made : (Pass.run (remote network.recorded base client) spec orgId
      (Trace.start start cancelled)).2.calls =
        before ++ .identityProvider settingsId providerId :: rest)
    {earlier : List Http.Exchange} {url : Url} {token : String} {response : Http.Response}
    (answered : (behind network base client start
        (before ++ [.identityProvider settingsId providerId])).network.2 =
      (behind network base client start before).network.2 ++ (earlier ++
        [⟨Client.callRequest (.identityProvider settingsId providerId) url token,
          .answered response⟩]))
    (success : Http.isSuccess response.status = true) {settings : IdentityProviderSettings}
    (decodes : (Json.Document.ofBytes response.body).decode IdentityProviderSettings.codec.decode =
      .ok settings) {members : Members}
    (whole : (Json.Document.ofBytes response.body).decode Json.Node.decodeValue =
      .ok (.object members))
    (integral : Json.haveIntegral members) {flag : Bool} (wants : spec.ssoDebugEnabled = some flag)
    (differs : members.lookup "ssoDebugEnabled" ≠ some (.bool flag)) :
    ∃ sent after, rest = .updateIdentityProvider settingsId providerId sent :: after ∧
      ∀ url token, Json.ofText (Client.callRequest
          (.updateIdentityProvider settingsId providerId sent) url token).body =
        .ok (.object (IdentityProviderSettings.debugged flag members)) := by
  have replied := reply_of_answered answered
  have read : response.read IdentityProviderSettings.codec = .ok settings := by
    rw [Http.Response.read, if_pos success, decodes]
    rfl
  have changes : spec.changesProvider settings = true := by
    have different : settings.ssoDebugEnabled ≠ some flag := fun told =>
      differs (IdentityProviderSettings.ssoDebugEnabled_of_lookup decodes whole told)
    simpa [Spec.changesProvider, wants] using different
  have settled : spec.settledProvider settings = settings.withDebug flag := by
    rw [Spec.settledProvider, wants]
    rfl
  have told : (remote network.recorded base client).answer start before
      (.identityProvider settingsId providerId) = .ok settings := by
    rw [Remote.answer, Remote.result, ← behind, replied]
    exact read
  have active := Pass.active_behind (remote network.recorded base client) spec orgId start cancelled
    made replied
  obtain ⟨after, rfl⟩ := Pass.update_follows _ spec orgId start cancelled made told changes active
  refine ⟨_, after, rfl, fun url token => ?_⟩
  rw [Client.body_of_update, settled]
  exact IdentityProviderSettings.ofText_debugged decodes whole integral flag

/-- A provider with no id, a nested member and a member given twice. -/
def nestedProvider : String :=
  "\x7b\"id\":null,\"a\":1,\"ssoDebugEnabled\":false," ++
    "\"b\":\x7b\"z\":[-7,\"\\u0001\"]\x7d,\"a\":2\x7d"

def shortGrant : String := "\x7b\"access_token\":\"tok\",\"expires_in\":30\x7d"

/-- A server answers up to the read of a provider, and grants a token for each call. -/
def nestedStart : Deployment (Http.Script × List Http.Exchange) :=
  let told (text : String) : Http.ScriptedAnswer := .respond ⟨200, Text.Utf8.encode text⟩ false
  let script := ⟨true,
    [told shortGrant, told "\x7b\"id\":\"fs-1\"\x7d",
      told shortGrant, told "\x7b\"orgId\":\"org\",\"identityProviderId\":\"idp\"\x7d",
      told shortGrant, told nestedProvider],
    [], ⟨0⟩⟩
  ⟨⟨[], [], []⟩, .empty, script, []⟩

def orgClient : Client := .fresh 0 ⟨"org", "id", "s3cr3t"⟩

/-- A resource that wants to debug its provider. -/
def debuggingSpec : Spec := ⟨some true, ⟨"secret", none⟩, [], none, some true, [], []⟩

def nestedCalls : List Call :=
  (Pass.run (remote Http.Script.network.recorded Client.cloudUrl orgClient) debuggingSpec "org"
    (Trace.start nestedStart false)).2.calls

def below (path : List String) : Url :=
  (Client.cloudUrl.below? path).getD Client.cloudUrl

/-- Whether an object has integers only, and its debug flag as it is written. -/
def flagged? : Json → Option (Bool × Option String)
  | .object members =>
      some (Json.haveIntegral members, (members.lookup "ssoDebugEnabled").map Json.render)
  | _ => none

theorem exists_object_of_flagged {value : Json} {seen : Bool × Option String}
    (flagged : flagged? value = some seen) : ∃ members, value = .object members ∧
      Json.haveIntegral members = seen.1 ∧
      (members.lookup "ssoDebugEnabled").map Json.render = seen.2 := by
  cases value <;> cases flagged
  exact ⟨_, rfl, rfl, rfl⟩

theorem eq_identityProvider {settingsId providerId : String} {call : Call}
    (method : call.method = "identity_provider")
    (path : call.path = (Call.identityProvider settingsId providerId).path) :
    call = .identityProvider settingsId providerId := by
  cases call <;> simp_all [Call.method, Call.path]

/-- A nested provider is told of to a resource that wants to debug it. -/
theorem provider_is_rewritten_nested : ∃ sent after members,
    nestedCalls.drop 2 =
      .identityProvider "fs-1" "idp" :: .updateIdentityProvider "fs-1" "idp" sent :: after ∧
    (Json.Document.ofBytes (Text.Utf8.encode nestedProvider)).decode Json.Node.decodeValue =
      .ok (.object members) ∧
    ∀ url token, Json.ofText (Client.callRequest
        (.updateIdentityProvider "fs-1" "idp" sent) url token).body =
      .ok (.object (IdentityProviderSettings.debugged true members)) := by
  have seen : (nestedCalls[2]?.map fun call => (call.method, call.path)) =
      some ("identity_provider", (Call.identityProvider "fs-1" "idp").path) := by
    decide +kernel
  obtain ⟨call, third, same⟩ := Option.map_eq_some_iff.mp seen
  obtain rfl := eq_identityProvider (congrArg Prod.fst same) (congrArg Prod.snd same)
  have dropped : nestedCalls.drop 2 = .identityProvider "fs-1" "idp" :: nestedCalls.drop 3 := by
    obtain ⟨within, held⟩ := List.getElem?_eq_some_iff.mp third
    rw [List.drop_eq_getElem_cons within, held]
  have made : nestedCalls =
      nestedCalls.take 2 ++ .identityProvider "fs-1" "idp" :: nestedCalls.drop 3 := by
    rw [← dropped, List.take_append_drop]
  have answered : (behind Http.Script.network Client.cloudUrl orgClient nestedStart
        (nestedCalls.take 2 ++ [.identityProvider "fs-1" "idp"])).network.2 =
      (behind Http.Script.network Client.cloudUrl orgClient nestedStart
        (nestedCalls.take 2)).network.2 ++
      ([⟨Client.tokenRequest orgClient.credentials (below Client.tokenPath),
          .answered ⟨200, Text.Utf8.encode shortGrant⟩⟩] ++
        [⟨Client.callRequest (.identityProvider "fs-1" "idp")
            (below (Call.identityProvider "fs-1" "idp").path) "tok",
          .answered ⟨200, Text.Utf8.encode nestedProvider⟩⟩]) := by
    decide +kernel
  have decoded : ((Json.Document.ofBytes (Text.Utf8.encode nestedProvider)).decode
      IdentityProviderSettings.codec.decode).toOption.map (fun _ => ()) = some () := by
    decide +kernel
  obtain ⟨settings, decodes, -⟩ := Json.exists_ok_of_seen decoded
  have valued : ((Json.Document.ofBytes (Text.Utf8.encode nestedProvider)).decode
      Json.Node.decodeValue).toOption.map flagged? = some (some (true, some "false")) := by
    decide +kernel
  obtain ⟨value, reads, flagged⟩ := Json.exists_ok_of_seen valued
  obtain ⟨members, rfl, integral, flag⟩ := exists_object_of_flagged flagged
  have differs : members.lookup "ssoDebugEnabled" ≠ some (.bool true) := by
    intro same
    rw [same] at flag
    exact absurd flag (by decide +kernel)
  obtain ⟨sent, after, next, body⟩ := provider_is_rewritten Http.Script.network Client.cloudUrl
    orgClient debuggingSpec "org" nestedStart false made answered rfl decodes reads integral rfl
    differs
  exact ⟨sent, after, members, next ▸ dropped, reads, body⟩

end Deployment

end OrgFederation

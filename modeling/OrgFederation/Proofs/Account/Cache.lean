import OrgFederation.Account.ClientCache
import OrgFederation.Proofs.Sequence

namespace OrgFederation.ClientCache

variable {ω : Type}

/-- A client that is put takes the place of the one of its account alone. -/
theorem find_put (cache : ClientCache) (client : Client) (account : String × String) :
    (cache.put client).find? account =
      if account = client.credentials.account then some client else cache.find? account := by
  rw [find?, find?, put]
  by_cases own : account = client.credentials.account
  · simp [own]
  · have apart : (account == client.credentials.account) = false := by simpa using own
    rw [if_neg own, List.lookup_cons, apart]
    exact lookup_filter_ne own

/-- What obtaining a client for some credentials leaves behind. -/
structure Obtained (cache : ClientCache) (asked : Credentials) (client : Client)
    (later : ClientCache) : Prop where
  credentials : client.credentials = asked
  cached : later.find? asked.account = some client
  known : cache.find? asked.account = some client ∨ client.token = none
  others : ∀ account, account ≠ asked.account → later.find? account = cache.find? account

/-- No client of a cache uses some credentials. -/
def Unused (cache : ClientCache) (asked : Credentials) : Prop :=
  ∀ client, cache.find? asked.account = some client → client.credentials ≠ asked

/-- How a client for some credentials is obtained: the one of their account uses just these, a new
one takes its place, or no pool opens for a new one. -/
inductive Obtains (cache : ClientCache) (asked : Credentials) (opened : Except String Unit) :
    Except OperatorError Client → ClientCache → Prop
  | again {client : Client} (held : cache.find? asked.account = some client)
      (uses : client.credentials = asked) : Obtains cache asked opened (.ok client) cache
  | failed {detail : String} (unused : cache.Unused asked) (shut : opened = .error detail) :
      Obtains cache asked opened (.error (poolError detail)) cache
  | anew (unused : cache.Unused asked) :
      Obtains cache asked opened (.ok (.fresh cache.made asked))
        { cache.put (.fresh cache.made asked) with made := cache.made + 1 }

/-- A client is obtained in one of these ways. -/
theorem obtain_obtains (network : Http.Network ω) (asked : Credentials) (cache : ClientCache)
    (state : ω) : cache.Obtains asked (network.openPool state).1
      (obtain network asked cache state).1 (obtain network asked cache state).2.1 := by
  have made (unused : cache.Unused asked) : cache.Obtains asked (network.openPool state).1
      (make network asked cache state).1 (make network asked cache state).2.1 := by
    rw [make]
    rcases network.openPool state with ⟨opened, next⟩
    cases opened with
    | error detail => exact .failed unused rfl
    | ok _ => exact .anew unused
  rw [obtain]
  cases held : cache.find? asked.account with
  | none => exact made fun client same => by rw [held] at same; cases same
  | some client =>
      dsimp only
      split
      · next uses => exact .again held (by simpa [Client.uses] using uses)
      · next other =>
          refine made fun another same => ?_
          rw [held] at same
          cases same
          simpa [Client.uses] using other

/-- The client of an account is obtained when it uses the credentials, and a new one otherwise. -/
theorem obtain_cases (network : Http.Network ω) (asked : Credentials) (cache : ClientCache)
    (state : ω) :
    (∃ error, (obtain network asked cache state).1 = .error error ∧
        (obtain network asked cache state).2.1 = cache) ∨
      ∃ client, (obtain network asked cache state).1 = .ok client ∧
        cache.Obtained asked client (obtain network asked cache state).2.1 := by
  have obtains := obtain_obtains network asked cache state
  generalize (obtain network asked cache state).1 = result,
    (obtain network asked cache state).2.1 = later at obtains ⊢
  cases obtains with
  | again held uses => exact .inr ⟨_, rfl, uses, held, .inl held, fun _ _ => rfl⟩
  | failed unused shut => exact .inl ⟨_, rfl, rfl⟩
  | anew unused =>
      refine .inr ⟨_, rfl, rfl, ?_, .inr rfl, fun account other => ?_⟩
      · exact (cache.find_put (.fresh cache.made asked) asked.account).trans (if_pos rfl)
      · exact (cache.find_put (.fresh cache.made asked) account).trans (if_neg other)

end OrgFederation.ClientCache

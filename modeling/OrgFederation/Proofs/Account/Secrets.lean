import OrgFederation.Deployment
import OrgFederation.Proofs.Json.Objects
import OrgFederation.Proofs.Sequence
import OrgFederation.Proofs.Text.Trimming
import OrgFederation.Proofs.Text.WellFormed

namespace OrgFederation

namespace SecretData

/-- The keys of credentials, in the order in which they are looked at. -/
def keys : List String := ["orgId", "clientId", "clientSecret"]

/-- The value of a key is the bytes of a text that is not all white space. -/
def Usable (data : SecretData) (key : String) : Prop :=
  ∃ text, data.lookup key = some (Text.Utf8.encode text) ∧
    ∃ letter ∈ text.toList, ¬Text.White letter

/-- The value of a key is the bytes of a text, which is not empty without the white space around
it. -/
def Reads (data : SecretData) (key core : String) : Prop :=
  ∃ text, data.lookup key = some (Text.Utf8.encode text) ∧ Text.Trims text core ∧ core ≠ ""

/-- What is wrong with the value of a key, and how this is told. -/
inductive Offends (data : SecretData) (key : String) : String → Prop
  | missing (absent : data.lookup key = none) : Offends data key ("missing key " ++ key)
  | notText {bytes : List UInt8} (given : data.lookup key = some bytes)
      (malformed : ∀ text, bytes ≠ Text.Utf8.encode text) :
      Offends data key ("key " ++ key ++ " is not valid UTF-8")
  | empty {text : String} (given : data.lookup key = some (Text.Utf8.encode text))
      (white : Text.AllWhite text) : Offends data key ("key " ++ key ++ " is empty")

/-- The first key whose value is wrong, and how this is told. -/
def FirstOffends (data : SecretData) (told : String) : Prop :=
  First data.Usable (data.Offends · told) keys

/-- Bytes with the bytes of white space around them. -/
def Padded (core bytes : List UInt8) : Prop :=
  ∃ before behind, bytes = Text.Utf8.encode before ++ core ++ Text.Utf8.encode behind ∧
    Text.AllWhite before ∧ Text.AllWhite behind

/-- Bytes that differ at most in the white space around them. -/
def SameInside (bytes other : List UInt8) : Prop :=
  ∃ core, Padded core bytes ∧ Padded core other

/-- The values of the keys of credentials differ at most in the white space around them. The entries
of other keys may be any. -/
def Alike (first second : SecretData) : Prop :=
  ∀ key ∈ keys, Option.Rel SameInside (first.lookup key) (second.lookup key)

end SecretData

namespace Credentials

open SecretData (Usable Reads Offends SameInside Alike)

section Value

variable {data : SecretData} {key : String}

theorem value_of_absent (absent : data.lookup key = none) :
    value data key = .error (.missing key) := by
  rw [value, absent]

theorem value_of_malformed {bytes : List UInt8} (given : data.lookup key = some bytes)
    (malformed : Text.Utf8.decode? bytes = none) : value data key = .error (.notText key) := by
  rw [value, given]
  dsimp only
  rw [malformed]

theorem value_of_text {bytes : List UInt8} {text : String} (given : data.lookup key = some bytes)
    (formed : Text.Utf8.decode? bytes = some text) :
    value data key =
      if Text.trim text = "" then .error (.empty key) else .ok (Text.trim text) := by
  rw [value, given]
  dsimp only
  rw [formed]
  simp only [String.isEmpty_iff]

/-- A value is read, or something is wrong with it. -/
theorem value_cases (data : SecretData) (key : String) :
    (∃ core, value data key = .ok core ∧ data.Reads key core) ∨
      ∃ problem, value data key = .error problem ∧ data.Offends key problem.message := by
  cases given : data.lookup key with
  | none => exact .inr ⟨_, value_of_absent given, .missing given⟩
  | some bytes =>
      cases formed : Text.Utf8.decode? bytes with
      | none =>
          refine .inr ⟨_, value_of_malformed given formed, .notText given fun text same => ?_⟩
          rw [Text.Utf8.decode_eq_some_iff.mpr same] at formed
          cases formed
      | some text =>
          have outcome := value_of_text given formed
          obtain rfl := Text.Utf8.decode_eq_some_iff.mp formed
          by_cases nothing : Text.trim text = ""
          · rw [if_pos nothing] at outcome
            exact .inr ⟨_, outcome, .empty given (Text.trim_eq_empty_iff.mp nothing)⟩
          · rw [if_neg nothing] at outcome
            exact .inl ⟨_, outcome, text, given, Text.trims_trim text, nothing⟩

theorem value_eq_ok_iff {core : String} : value data key = .ok core ↔ data.Reads key core := by
  constructor
  · intro read
    rcases value_cases data key with ⟨other, same, reads⟩ | ⟨problem, refused, -⟩
    · cases same.symm.trans read
      exact reads
    · cases refused.symm.trans read
  · rintro ⟨text, given, trims, visible⟩
    rw [value_of_text given (Text.Utf8.decode_eq_some_iff.mpr rfl), Text.trim_eq_iff.mpr trims,
      if_neg visible]

/-- A key is refused for what is wrong with its value. -/
theorem value_refused_iff {told : String} :
    (∃ problem, value data key = .error problem ∧ problem.message = told) ↔
      data.Offends key told := by
  constructor
  · rintro ⟨problem, refused, rfl⟩
    rcases value_cases data key with ⟨core, read, -⟩ | ⟨other, same, offends⟩
    · cases read.symm.trans refused
    · cases same.symm.trans refused
      exact offends
  · intro offends
    cases offends with
    | missing absent => exact ⟨_, value_of_absent absent, rfl⟩
    | @notText bytes given malformed =>
        have formed : Text.Utf8.decode? bytes = none := by
          rw [Option.eq_none_iff_forall_not_mem]
          exact fun text read => malformed text (Text.Utf8.decode_eq_some_iff.mp read)
        exact ⟨_, value_of_malformed given formed, rfl⟩
    | @empty text given white =>
        refine ⟨.empty key, ?_, rfl⟩
        rw [value_of_text given (Text.Utf8.decode_eq_some_iff.mpr rfl),
          if_pos (Text.trim_eq_empty_iff.mpr white)]

/-- A key is usable exactly when it has a value. -/
theorem usable_iff : data.Usable key ↔ ∃ core, value data key = .ok core := by
  simp only [value_eq_ok_iff]
  constructor
  · rintro ⟨text, given, letter, inside, visible⟩
    refine ⟨Text.trim text, text, given, Text.trims_trim text, fun nothing => ?_⟩
    exact visible (Text.trim_eq_empty_iff.mp nothing letter inside)
  · rintro ⟨core, text, given, trims, visible⟩
    refine ⟨text, given, ?_⟩
    by_contra blank
    push Not at blank
    have nothing : Text.trim text = "" := Text.trim_eq_empty_iff.mpr blank
    exact visible ((Text.trim_eq_iff.mpr trims).symm.trans nothing)

/-- White space around the bytes of a value changes nothing. -/
theorem value_of_padded {core bytes : List UInt8} (padded : SecretData.Padded core bytes)
    (given : data.lookup key = some bytes) : value data key = value [(key, core)] key := by
  have alone : [(key, core)].lookup key = some core := by
    rw [List.lookup_cons, beq_self_eq_true]
  obtain ⟨before, behind, rfl, first, last⟩ := padded
  have between := Text.Utf8.decode_between before behind core
  cases formed : Text.Utf8.decode? core with
  | none =>
      rw [formed, Option.map_none] at between
      rw [value_of_malformed given between, value_of_malformed alone formed]
  | some text =>
      rw [formed, Option.map_some] at between
      rw [value_of_text given between, value_of_text alone formed, Text.trim_between first last]

/-- Values that differ at most in the white space around them are the same. -/
theorem value_of_sameInside {first second : SecretData}
    (same : Option.Rel SameInside (first.lookup key) (second.lookup key)) :
    value second key = value first key := by
  generalize given : first.lookup key = bytes, other : second.lookup key = others at same
  cases same with
  | none => rw [value_of_absent given, value_of_absent other]
  | some same =>
      obtain ⟨core, padded, otherPadded⟩ := same
      rw [value_of_padded padded given, value_of_padded otherPadded other]

end Value

section Secret

variable {secret : Option SecretData}

theorem ofSecret_eq_ok_iff {credentials : Credentials} :
    ofSecret secret = .ok credentials ↔
      (secret.getD []).Reads "orgId" credentials.orgId ∧
      (secret.getD []).Reads "clientId" credentials.clientId ∧
      (secret.getD []).Reads "clientSecret" credentials.clientSecret := by
  simp only [← value_eq_ok_iff]
  constructor
  · intro read
    obtain ⟨orgId, first, read⟩ := Json.bind_eq_ok_iff.mp read
    obtain ⟨clientId, second, read⟩ := Json.bind_eq_ok_iff.mp read
    obtain ⟨clientSecret, third, read⟩ := Json.bind_eq_ok_iff.mp read
    obtain rfl := Except.ok.inj read
    exact ⟨first, second, third⟩
  · rintro ⟨first, second, third⟩
    refine Json.bind_eq_ok_iff.mpr ⟨_, first, ?_⟩
    refine Json.bind_eq_ok_iff.mpr ⟨_, second, ?_⟩
    exact Json.bind_eq_ok_iff.mpr ⟨_, third, rfl⟩

/-- A secret is refused for the first of its keys that is. -/
theorem ofSecret_eq_error_iff {problem : CredentialsError} :
    ofSecret secret = .error problem ↔
      First (secret.getD []).Usable (value (secret.getD []) · = .error problem)
        SecretData.keys := by
  simp only [ofSecret, Json.bind_eq_error_iff, exists_and_right, ← usable_iff, SecretData.keys,
    first_cons, first_nil, and_false, or_false, orgIdKey, clientIdKey, clientSecretKey, pure,
    Except.pure, reduceCtorEq, exists_false]

theorem ofSecret_refused_iff {told : String} :
    (∃ problem, ofSecret secret = .error problem ∧ problem.message = told) ↔
      (secret.getD []).FirstOffends told := by
  simp only [SecretData.FirstOffends, First, ← value_refused_iff, ofSecret_eq_error_iff]
  constructor
  · rintro ⟨problem, ⟨before, key, behind, split, found, refused⟩, rfl⟩
    exact ⟨before, key, behind, split, found, problem, refused, rfl⟩
  · rintro ⟨before, key, behind, split, found, problem, refused, rfl⟩
    exact ⟨problem, ⟨before, key, behind, split, found, refused⟩, rfl⟩

/-- A secret is read exactly when all its keys are usable. -/
theorem exists_ofSecret_iff :
    (∃ credentials, ofSecret secret = .ok credentials) ↔
      ∀ key ∈ SecretData.keys, (secret.getD []).Usable key := by
  simp only [usable_iff, value_eq_ok_iff, ofSecret_eq_ok_iff, SecretData.keys,
    List.forall_mem_cons]
  constructor
  · rintro ⟨credentials, first, second, third⟩
    exact ⟨⟨_, first⟩, ⟨_, second⟩, ⟨_, third⟩, List.forall_mem_nil _⟩
  · rintro ⟨⟨orgId, first⟩, ⟨clientId, second⟩, ⟨clientSecret, third⟩, -⟩
    exact ⟨⟨orgId, clientId, clientSecret⟩, first, second, third⟩

/-- Only the three texts of a secret count. -/
theorem ofSecret_of_alike {other : Option SecretData}
    (alike : (secret.getD []).Alike (other.getD [])) : ofSecret other = ofSecret secret := by
  have same (key : String) (listed : key ∈ SecretData.keys) :
      value (other.getD []) key = value (secret.getD []) key :=
    value_of_sameInside (alike key listed)
  unfold ofSecret
  dsimp only
  rw [same orgIdKey (by decide), same clientIdKey (by decide), same clientSecretKey (by decide)]

end Secret

end Credentials

namespace Deployment

variable {ω : Type}

/-- The cluster has a secret for a resource, and hands it out. -/
def HandsOut (deployment : Deployment ω) (resource : FederatedAuth) (secret : Option SecretData) :
    Prop :=
  let reference := resource.spec.connectionSecretRef
  let namespaceName := reference.namespaceWithin (resource.metadata.namespaceName.getD "")
  (deployment.cluster.readSecret namespaceName reference.name).1 = .ok (some secret)

/-- A client stays the one of its account while its credentials are read of the secret. -/
theorem client_stays {network : Http.Network ω} {resource : FederatedAuth}
    {deployment : Deployment ω} {secret : Option SecretData} {held : Client}
    (handed : deployment.HandsOut resource secret)
    (read : Credentials.ofSecret secret = .ok held.credentials)
    (cached : deployment.cache.find? held.credentials.account = some held) :
    (client network resource deployment).1 = .ok held ∧
      (client network resource deployment).2.cache = deployment.cache ∧
      (client network resource deployment).2.network = deployment.network := by
  have named : resource.spec.connectionSecretRef.name.isEmpty = false := by
    rw [HandsOut, Cluster.readSecret] at handed
    by_contra unnamed
    rw [Bool.not_eq_false] at unnamed
    rw [if_pos unnamed] at handed
    cases handed
  have again : deployment.cache.obtain network held.credentials deployment.network =
      (.ok held, deployment.cache, deployment.network) := by
    rw [ClientCache.obtain, cached]
    exact if_pos (beq_self_eq_true held.credentials)
  rw [client, named]
  rw [HandsOut] at handed
  dsimp only at handed ⊢
  rw [handed]
  dsimp only
  rw [read]
  dsimp only
  rw [again]
  exact ⟨rfl, rfl, rfl⟩

end Deployment

/-- Credentials are read of a secret exactly when each of three keys has the bytes of a text that is
not all white space. They are these texts without the white space around them; if there are none, the
first key without such a text is told. Another secret with the same texts is read alike, and whoever
is connected with it gets the client that the first secret led to, while the cache stays as it is. -/
theorem Credentials.texts_decide (secret : Option SecretData) :
    (∀ credentials, ofSecret secret = .ok credentials ↔
        (secret.getD []).Reads "orgId" credentials.orgId ∧
        (secret.getD []).Reads "clientId" credentials.clientId ∧
        (secret.getD []).Reads "clientSecret" credentials.clientSecret) ∧
      ((∃ credentials, ofSecret secret = .ok credentials) ↔
        ∀ key ∈ SecretData.keys, (secret.getD []).Usable key) ∧
      (∀ told, (∃ problem, ofSecret secret = .error problem ∧ problem.message = told) ↔
        (secret.getD []).FirstOffends told) ∧
      ∀ other : Option SecretData, (secret.getD []).Alike (other.getD []) →
        ofSecret other = ofSecret secret ∧
          ∀ {ω : Type} (network : Http.Network ω) (resource : FederatedAuth)
            (deployment : Deployment ω) (held : Client), deployment.HandsOut resource other →
            ofSecret secret = .ok held.credentials →
            deployment.cache.find? held.credentials.account = some held →
            (deployment.client network resource).1 = .ok held ∧
              (deployment.client network resource).2.cache = deployment.cache ∧
              (deployment.client network resource).2.network = deployment.network := by
  refine ⟨fun _ => ofSecret_eq_ok_iff, exists_ofSecret_iff, fun _ => ofSecret_refused_iff, ?_⟩
  intro other alike
  have same : ofSecret other = ofSecret secret := ofSecret_of_alike alike
  refine ⟨same, fun network resource deployment held handed read cached => ?_⟩
  exact Deployment.client_stays handed (same.trans read) cached

namespace SecretData

/-- The texts of an account. -/
def plain : SecretData :=
  [("orgId", Text.Utf8.encode "org"), ("clientId", Text.Utf8.encode "id"),
    ("clientSecret", Text.Utf8.encode "old")]

/-- The same texts amid white space of several bytes, and another entry that is no text. -/
def padded : SecretData :=
  [("note", [0xFF]), ("orgId", Text.Utf8.encode ("\u2003" ++ "org" ++ "\u0085")),
    ("clientId", Text.Utf8.encode ("" ++ "id" ++ "")),
    ("clientSecret", Text.Utf8.encode ("\n " ++ "old" ++ "\u3000"))]

/-- One text is all white space, another one is no text, and the last one is not there. -/
def spoiled : SecretData :=
  [("orgId", Text.Utf8.encode "\u3000\t"), ("clientId", [0xC0, 0x80])]

/-- The bytes of a text are the same inside with white space around the text. -/
theorem sameInside_between {before behind : String} (first : Text.AllWhite before)
    (last : Text.AllWhite behind) (text : String) :
    SameInside (Text.Utf8.encode text) (Text.Utf8.encode (before ++ text ++ behind)) := by
  have nothing : Text.AllWhite "" := fun _ inside => by cases inside
  refine ⟨Text.Utf8.encode text, ⟨"", "", ?_, nothing, nothing⟩, ⟨before, behind, ?_, first, last⟩⟩
  · rw [← Text.Utf8.encode_append, ← Text.Utf8.encode_append, String.empty_append,
      String.append_empty]
  · rw [← Text.Utf8.encode_append, ← Text.Utf8.encode_append]

theorem plain_alike_padded : plain.Alike padded := by
  have orgId : SameInside (Text.Utf8.encode "org")
      (Text.Utf8.encode ("\u2003" ++ "org" ++ "\u0085")) :=
    sameInside_between (by simp [Text.AllWhite, Text.White, Text.whiteSpace])
      (by simp [Text.AllWhite, Text.White, Text.whiteSpace]) "org"
  have clientId : SameInside (Text.Utf8.encode "id") (Text.Utf8.encode ("" ++ "id" ++ "")) :=
    sameInside_between (by simp [Text.AllWhite]) (by simp [Text.AllWhite]) "id"
  have clientSecret : SameInside (Text.Utf8.encode "old")
      (Text.Utf8.encode ("\n " ++ "old" ++ "\u3000")) :=
    sameInside_between (by simp [Text.AllWhite, Text.White, Text.whiteSpace])
      (by simp [Text.AllWhite, Text.White, Text.whiteSpace]) "old"
  have listed : Option.Rel SameInside (plain.lookup "orgId") (padded.lookup "orgId") ∧
      Option.Rel SameInside (plain.lookup "clientId") (padded.lookup "clientId") ∧
      Option.Rel SameInside (plain.lookup "clientSecret") (padded.lookup "clientSecret") :=
    ⟨.some orgId, .some clientId, .some clientSecret⟩
  simpa [Alike, keys] using listed

end SecretData

/-- A secret with white space around its texts leads to the client of the plain one, and a spoiled one
is refused for its first text. -/
theorem Credentials.texts_decide_padded :
    let held : Client := ⟨0, ⟨"org", "id", "old"⟩, none⟩
    let deployment : Deployment Http.Script :=
      ⟨⟨[(("team", "secret"), .kept (.object [("note", .string "/w=="),
          ("orgId", .string "4oCDb3JnwoU="), ("clientId", .string "aWQ="),
          ("clientSecret", .string "CiBvbGTjgIA=")]))], [], []⟩,
        ⟨[(("org", "id"), held)], 1⟩, ⟨true, [], [], ⟨0⟩⟩⟩
    let resource : FederatedAuth := ⟨⟨some "federation", none, some "team", some 1, []⟩,
      ⟨some true, ⟨"secret", none⟩, [], none, none, [], []⟩, none⟩
    ofSecret (some .padded) = .ok ⟨"org", "id", "old"⟩ ∧
      (deployment.client Http.Script.network resource).1 = .ok held ∧
      (deployment.client Http.Script.network resource).2.cache = deployment.cache ∧
      ∃ problem, ofSecret (some .spoiled) = .error problem ∧
        problem.message = "key orgId is empty" := by
  intro held deployment resource
  have read : ofSecret (some .plain) = .ok ⟨"org", "id", "old"⟩ := by decide +kernel
  have handed : deployment.HandsOut resource (some .padded) := by
    unfold Deployment.HandsOut
    decide +kernel
  have decided := (texts_decide (some .plain)).2.2.2 (some .padded) SecretData.plain_alike_padded
  have again := decided.2 Http.Script.network resource deployment held handed read rfl
  have first : SecretData.spoiled.FirstOffends "key orgId is empty" :=
    ⟨[], "orgId", _, rfl, List.forall_mem_nil _,
      .empty (rfl : _ = some (Text.Utf8.encode "\u3000\t"))
        (by simp [Text.AllWhite, Text.White, Text.whiteSpace])⟩
  exact ⟨decided.1.trans read, again.1, again.2.1,
    ((texts_decide (some .spoiled)).2.2.1 _).mpr first⟩

end OrgFederation

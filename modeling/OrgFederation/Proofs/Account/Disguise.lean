import Mathlib.Data.List.DropRight
import OrgFederation.Cluster.Basic
import OrgFederation.Proofs.Json.Objects

namespace OrgFederation

namespace Text

/-- A text that is not blank and has no white space around it. -/
def Clean (text : String) : Prop :=
  trim text = text ∧ text ≠ ""

/-- Behind a character that is no blank nothing is dropped from the front. -/
theorem dropBlanks_of_prefix {letters rest : List Char}
    (begins : letters <+: dropBlanks rest) : dropBlanks letters = letters := by
  cases letters with
  | nil => rfl
  | cons first others =>
      obtain ⟨more, same⟩ := begins
      have begun : (dropBlanks rest).head? = some first := by rw [← same]; rfl
      have visible : isBlank first = false := by
        have held := List.head?_dropWhile_not isBlank rest
        rw [dropBlanks] at begun
        rw [begun] at held
        exact held
      exact List.dropWhile_cons_of_neg (by simp [visible])

/-- A trimmed text has nothing to trim. -/
theorem trim_trim (text : String) : trim (trim text) = trim text := by
  have back (letters : List Char) : trimmed letters = (dropBlanks letters).rdropWhile isBlank := rfl
  have begins : trimmed text.toList <+: dropBlanks text.toList := List.rdropWhile_prefix _ _
  have front := dropBlanks_of_prefix begins
  rw [trim, trim, String.toList_ofList, back, front, back, List.rdropWhile_idempotent]

end Text

/-- No two client secrets have the same disguise. -/
def TellsApart (disguise : String → String) : Prop :=
  ∀ first second, Text.Clean first → Text.Clean second → disguise first = disguise second →
    first = second

namespace Credentials

/-- The same credentials, but for the client secret. -/
def disguised (disguise : String → String) (credentials : Credentials) : Credentials :=
  { credentials with clientSecret := disguise credentials.clientSecret }

variable (disguise : String → String)

@[simp] theorem disguised_orgId (credentials : Credentials) :
    (credentials.disguised disguise).orgId = credentials.orgId := rfl

@[simp] theorem disguised_account (credentials : Credentials) :
    (credentials.disguised disguise).account = credentials.account := rfl

@[simp] theorem disguised_description (credentials : Credentials) :
    (credentials.disguised disguise).description = credentials.description := rfl

variable {disguise}

/-- Credentials of one account are the same exactly when they are in a disguise. -/
theorem disguised_eq_iff (apart : TellsApart disguise) {first second : Credentials}
    (cleanFirst : Text.Clean first.clientSecret) (cleanSecond : Text.Clean second.clientSecret) :
    first.disguised disguise = second.disguised disguise ↔ first = second := by
  constructor
  · intro same
    rcases first with ⟨orgId, clientId, clientSecret⟩
    rcases second with ⟨otherOrgId, otherClientId, otherSecret⟩
    obtain ⟨rfl, rfl, hidden⟩ := Credentials.mk.inj same
    obtain rfl : clientSecret = otherSecret := apart _ _ cleanFirst cleanSecond hidden
    rfl
  · intro same
    rw [same]

/-- The value of a key is clean. -/
theorem clean_of_value {data : SecretData} {key text : String} (read : value data key = .ok text) :
    Text.Clean text := by
  unfold value at read
  split at read
  · cases read
  · split at read
    · cases read
    · dsimp only at read
      split at read
      · cases read
      · next visible =>
          obtain rfl := Except.ok.inj read
          exact ⟨Text.trim_trim _, by simpa using visible⟩

end Credentials

/-- The entries of a secret, the second time with the client secret in a disguise. -/
structure SecretData.Disguised (disguise : String → String) (first second : SecretData) : Prop where
  others : ∀ key, key ≠ Credentials.clientSecretKey → second.lookup key = first.lookup key
  hidden : Credentials.value second Credentials.clientSecretKey =
    (Credentials.value first Credentials.clientSecretKey).map disguise

namespace SecretData.Disguised

variable {disguise : String → String} {first second : SecretData}

theorem value_eq (hidden : SecretData.Disguised disguise first second) {key : String}
    (other : key ≠ Credentials.clientSecretKey) :
    Credentials.value second key = Credentials.value first key := by
  unfold Credentials.value
  rw [hidden.others key other]

/-- A secret without entries needs no disguise. -/
theorem nil : SecretData.Disguised disguise [] [] :=
  ⟨fun _ _ => rfl, rfl⟩

end SecretData.Disguised

namespace Credentials

variable {disguise : String → String}

/-- A secret is read as credentials whose client secret is in a disguise, or refused as before. -/
theorem ofSecret_disguised {first second : Option SecretData}
    (hidden : Option.Rel (SecretData.Disguised disguise) first second) :
    ofSecret second = (ofSecret first).map (disguised disguise) := by
  have entries : SecretData.Disguised disguise (first.getD []) (second.getD []) := by
    cases hidden with
    | none => exact .nil
    | some hidden => exact hidden
  have orgId : value (second.getD []) orgIdKey = value (first.getD []) orgIdKey :=
    entries.value_eq (by decide)
  have clientId : value (second.getD []) clientIdKey = value (first.getD []) clientIdKey :=
    entries.value_eq (by decide)
  unfold ofSecret
  dsimp only
  rw [orgId, clientId, entries.hidden]
  cases value (first.getD []) orgIdKey with
  | error problem => rfl
  | ok orgId =>
      cases value (first.getD []) clientIdKey with
      | error problem => rfl
      | ok clientId => cases value (first.getD []) clientSecretKey <;> rfl

/-- The client secret of a secret is clean. -/
theorem clean_of_ofSecret {data : Option SecretData} {credentials : Credentials}
    (read : ofSecret data = .ok credentials) : Text.Clean credentials.clientSecret := by
  unfold ofSecret at read
  obtain ⟨orgId, -, read⟩ := Json.bind_eq_ok_iff.mp read
  obtain ⟨clientId, -, read⟩ := Json.bind_eq_ok_iff.mp read
  obtain ⟨clientSecret, told, read⟩ := Json.bind_eq_ok_iff.mp read
  obtain rfl := Except.ok.inj read
  exact clean_of_value told

end Credentials

/-- What a cluster keeps of a secret, the second time with the client secret in a disguise. -/
inductive StoredSecret.Disguised (disguise : String → String) : StoredSecret → StoredSecret → Prop
  | kept {first second : Json} (hidden : Option.Rel (Option.Rel (SecretData.Disguised disguise))
      (Cluster.secretData? first) (Cluster.secretData? second)) :
      Disguised disguise (.kept first) (.kept second)
  | refused (code : Nat) (reason : String) :
      Disguised disguise (.refused code reason) (.refused code reason)

/-- Clusters in the same state, but for the client secrets in the second one, which are in a
disguise. -/
structure Cluster.Disguised (disguise : String → String) (first second : Cluster) : Prop where
  secrets : ∀ place, Option.Rel (StoredSecret.Disguised disguise) (first.secrets.lookup place)
    (second.secrets.lookup place)
  patchRefusals : second.patchRefusals = first.patchRefusals
  requests : second.requests = first.requests

namespace Cluster

/-- What is read of a secret, the second time with the client secret in a disguise. -/
inductive ReadDisguised (disguise : String → String) :
    Except ClusterError (Option (Option SecretData)) →
      Except ClusterError (Option (Option SecretData)) → Prop
  | failed (cause : ClusterError) : ReadDisguised disguise (.error cause) (.error cause)
  | absent : ReadDisguised disguise (.ok none) (.ok none)
  | found {first second : Option SecretData}
      (hidden : Option.Rel (SecretData.Disguised disguise) first second) :
      ReadDisguised disguise (.ok (some first)) (.ok (some second))

namespace Disguised

variable {disguise : String → String} {first second : Cluster}

theorem logged (hidden : first.Disguised disguise second) (request : ClusterRequest) :
    (first.logged request).Disguised disguise (second.logged request) where
  secrets := hidden.secrets
  patchRefusals := hidden.patchRefusals
  requests := by rw [Cluster.logged, Cluster.logged, hidden.requests]

/-- Reading a secret tells the disguise of nothing but the client secret. -/
theorem readSecret (hidden : first.Disguised disguise second) (namespaceName name : String) :
    ReadDisguised disguise (first.readSecret namespaceName name).1
        (second.readSecret namespaceName name).1 ∧
      (first.readSecret namespaceName name).2.Disguised disguise
        (second.readSecret namespaceName name).2 := by
  unfold Cluster.readSecret
  split
  · exact ⟨.failed _, hidden⟩
  · have stored := hidden.secrets (namespaceName, name)
    refine ⟨?_, hidden.logged _⟩
    generalize first.secrets.lookup (namespaceName, name) = kept,
      second.secrets.lookup (namespaceName, name) = rival at stored ⊢
    cases stored with
    | none => exact .absent
    | some stored =>
        cases stored with
        | refused code reason =>
            dsimp only
            split
            · exact .absent
            · exact .failed _
        | @kept data other hidden =>
            dsimp only
            generalize secretData? data = entries, secretData? other = others at hidden ⊢
            cases hidden with
            | none => exact .failed _
            | some hidden => exact .found hidden

/-- A status patch meets the same refusal. -/
theorem patchStatus (hidden : first.Disguised disguise second) (patch : StatusPatch) :
    (first.patchStatus patch).1 = (second.patchStatus patch).1 ∧
      (first.patchStatus patch).2.Disguised disguise (second.patchStatus patch).2 := by
  unfold Cluster.patchStatus
  split
  · exact ⟨rfl, hidden⟩
  · have noted := hidden.logged (.patchStatus
      (ClusterPath.status patch.namespaceName patch.name) ClusterPath.managerQuery patch.body)
    dsimp only
    rw [noted.patchRefusals]
    split
    · exact ⟨rfl, noted⟩
    · exact ⟨rfl, ⟨noted.secrets, rfl, noted.requests⟩⟩
    · exact ⟨rfl, ⟨noted.secrets, rfl, noted.requests⟩⟩

end Disguised

end Cluster

end OrgFederation

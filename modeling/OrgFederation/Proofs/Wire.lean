import OrgFederation.Management.OrgConfig
import OrgFederation.Management.Project
import OrgFederation.Proofs.Json.ReadsBack
import OrgFederation.Proofs.Management.Provider
import OrgFederation.Proofs.Resource.Written
import OrgFederation.Resource.Spec

namespace OrgFederation

open Json (Codec Fields)
open Json.Field (required_readsBack optional_readsBack optional_text_readsBack
  optional_flag_readsBack defaulted_readsBack elided_readsBack elidedList_readsBack)
open Json.Codec (text_readsBack list_readsBack)

theorem SecretRef.readsBack (reference : SecretRef) : codec.ReadsBack 1 reference :=
  Fields.codec_readsBack (by decide) rfl
    ⟨required_readsBack (text_readsBack _), optional_text_readsBack _, trivial⟩

theorem RoleAssignment.readsBack (assignment : RoleAssignment) : codec.ReadsBack 1 assignment :=
  Fields.codec_readsBack (by decide) rfl
    ⟨required_readsBack (text_readsBack _), required_readsBack (text_readsBack _), trivial⟩

theorem RoleMapping.readsBack (mapping : RoleMapping) : codec.ReadsBack 3 mapping :=
  Fields.codec_readsBack (by decide) rfl
    ⟨required_readsBack (text_readsBack _),
      elidedList_readsBack fun assignment _ => assignment.readsBack, trivial⟩

theorem Spec.readsBack (spec : Spec) : codec.ReadsBack 5 spec :=
  Fields.codec_readsBack (by decide) rfl
    ⟨optional_flag_readsBack _,
      required_readsBack (spec.connectionSecretRef.readsBack.mono (by decide)),
      elidedList_readsBack fun domain _ => text_readsBack domain, optional_flag_readsBack _,
      optional_flag_readsBack _, elidedList_readsBack fun grant _ => text_readsBack grant,
      elidedList_readsBack fun mapping _ => mapping.readsBack, trivial⟩

theorem ConditionType.readsBack (type : ConditionType) : codec.ReadsBack 0 type :=
  ⟨type.codec_survives, rfl⟩

theorem ConditionStatus.readsBack (status : ConditionStatus) : codec.ReadsBack 0 status :=
  ⟨status.codec_survives, rfl⟩

theorem Condition.readsBack {condition : Condition} (dated : condition.Dated) :
    codec.ReadsBack 1 condition :=
  Fields.codec_readsBack (by decide) rfl
    ⟨required_readsBack condition.type.readsBack, required_readsBack condition.status.readsBack,
      elided_readsBack (text_readsBack _), elided_readsBack (text_readsBack _),
      required_readsBack ⟨Timestamp.codec_survives dated, rfl⟩, trivial⟩

theorem Project.readsBack (project : Project) : codec.ReadsBack 1 project :=
  Fields.codec_readsBack (by decide) rfl
    ⟨required_readsBack (text_readsBack _), required_readsBack (text_readsBack _),
      defaulted_readsBack (text_readsBack _), trivial⟩

theorem FederationSettings.readsBack (settings : FederationSettings) :
    codec.ReadsBack 1 settings :=
  Fields.codec_readsBack (by decide) rfl
    ⟨required_readsBack (text_readsBack _), optional_text_readsBack _, optional_text_readsBack _,
      trivial⟩

theorem OrgRoleAssignment.readsBack (assignment : OrgRoleAssignment) :
    codec.ReadsBack 1 assignment :=
  Fields.codec_readsBack (by decide) rfl
    ⟨optional_text_readsBack _, optional_text_readsBack _, required_readsBack (text_readsBack _),
      trivial⟩

theorem OrgRoleMapping.readsBack (mapping : OrgRoleMapping) : codec.ReadsBack 3 mapping :=
  Fields.codec_readsBack (by decide) rfl
    ⟨required_readsBack (text_readsBack _), optional_text_readsBack _,
      defaulted_readsBack (list_readsBack fun assignment _ => assignment.readsBack), trivial⟩

theorem UserConflict.readsBack (conflict : UserConflict) : codec.ReadsBack 1 conflict :=
  Fields.codec_readsBack (by decide) rfl
    ⟨required_readsBack (text_readsBack _), optional_text_readsBack _, optional_text_readsBack _,
      optional_text_readsBack _, optional_text_readsBack _, trivial⟩

theorem ConnectedOrgConfig.readsBack (config : ConnectedOrgConfig) : codec.ReadsBack 5 config :=
  Fields.codec_readsBack (by decide) rfl
    ⟨required_readsBack (text_readsBack _), defaulted_readsBack (text_readsBack _),
      defaulted_readsBack (list_readsBack fun domain _ => text_readsBack domain),
      optional_flag_readsBack _,
      defaulted_readsBack (list_readsBack fun grant _ => text_readsBack grant),
      defaulted_readsBack (list_readsBack fun mapping _ => mapping.readsBack),
      optional_readsBack Codec.list_refusesNull fun _ _ =>
        list_readsBack fun conflict _ => conflict.readsBack.mono (by decide), trivial⟩

theorem DesiredOrgConfig.readsBack (config : DesiredOrgConfig) : codec.ReadsBack 5 config :=
  Fields.codec_readsBack (by decide) rfl
    ⟨required_readsBack (text_readsBack _), required_readsBack (text_readsBack _),
      required_readsBack (list_readsBack fun domain _ => text_readsBack domain),
      optional_flag_readsBack _,
      required_readsBack (list_readsBack fun grant _ => text_readsBack grant),
      required_readsBack (list_readsBack fun mapping _ => mapping.readsBack), trivial⟩

theorem Status.readsBack {status : Status} (dated : status.Dated) (hasWord : status.HasWord) :
    codec.ReadsBack 3 status := by
  have generation : ∀ held ∈ status.observedGeneration, Json.Codec.int64.ReadsBack 2 held :=
    fun held told => Json.Codec.int64_readsBack (hasWord held told).1 (hasWord held told).2
  exact Fields.codec_readsBack (by decide) rfl
    ⟨optional_readsBack Json.Codec.integer_refusesNull generation,
      elidedList_readsBack fun condition listed => Condition.readsBack (dated condition listed),
      trivial⟩

/-- Settings that were decoded are read back when their other members have integers for numbers. -/
theorem IdentityProviderSettings.readsBack {settings : IdentityProviderSettings}
    {document : Json.Document} (decodes : document.decode codec.decode = .ok settings)
    (integral : Json.haveIntegral settings.other) :
    (Json.Document.ofText (codec.encode settings).render).decode codec.decode = .ok settings := by
  have root := (Json.Document.decode_eq_ok_iff.mp decodes).1
  obtain ⟨listed, isObject⟩ := exists_entries_of_decode root
  rw [isObject] at root
  obtain ⟨room, -, others⟩ := decode_object_eq_ok_iff.mp root
  have kept := kept_of_decodeMembers others
  exact Json.Document.decode_render (isIntegral_encode integral) (kept.decode_encode room)

/-- The types whose values travel as texts. -/
inductive WireType where
  | spec
  | secretRef
  | roleMapping
  | status
  | condition
  | project
  | federationSettings
  | orgRoleMapping
  | userConflict
  | connectedOrgConfig
  | desiredOrgConfig
  | identityProviderSettings
  deriving DecidableEq, Repr

namespace WireType

def Value : WireType → Type
  | .spec => Spec
  | .secretRef => SecretRef
  | .roleMapping => RoleMapping
  | .status => Status
  | .condition => Condition
  | .project => Project
  | .federationSettings => FederationSettings
  | .orgRoleMapping => OrgRoleMapping
  | .userConflict => UserConflict
  | .connectedOrgConfig => ConnectedOrgConfig
  | .desiredOrgConfig => DesiredOrgConfig
  | .identityProviderSettings => IdentityProviderSettings

def codec : (type : WireType) → Codec type.Value
  | .spec => Spec.codec
  | .secretRef => SecretRef.codec
  | .roleMapping => RoleMapping.codec
  | .status => Status.codec
  | .condition => Condition.codec
  | .project => Project.codec
  | .federationSettings => FederationSettings.codec
  | .orgRoleMapping => OrgRoleMapping.codec
  | .userConflict => UserConflict.codec
  | .connectedOrgConfig => ConnectedOrgConfig.codec
  | .desiredOrgConfig => DesiredOrgConfig.codec
  | .identityProviderSettings => IdentityProviderSettings.codec

/-- The value of a text. -/
def read (type : WireType) (text : String) : Except Json.DecodeError type.Value :=
  (Json.Document.ofText text).decode type.codec.decode

/-- The text of a value. -/
def write (type : WireType) (value : type.Value) : String :=
  (type.codec.encode value).render

/-- A text as it would have been written. -/
def normalise (type : WireType) (text : String) : Except Json.DecodeError String :=
  (type.read text).map type.write

/-- Where members of any kind are kept, the numbers in them are integers of 64 bits. -/
def Plain : (type : WireType) → type.Value → Prop
  | .identityProviderSettings, settings => Json.haveIntegral settings.other
  | _, _ => True

/-- What a document decodes to is read from the text that is written of it. -/
theorem read_write {type : WireType} {document : Json.Document} {value : type.Value}
    (decodes : document.decode type.codec.decode = .ok value) (plain : type.Plain value) :
    type.read (type.write value) = .ok value := by
  have root := (Json.Document.decode_eq_ok_iff.mp decodes).1
  cases type with
  | spec => exact (Spec.readsBack value).decode_render (by decide)
  | secretRef => exact (SecretRef.readsBack value).decode_render (by decide)
  | roleMapping => exact (RoleMapping.readsBack value).decode_render (by decide)
  | status =>
      exact (Status.readsBack (Status.codec_yields root)
        (Status.codec_yields_word root)).decode_render (by decide)
  | condition => exact (Condition.readsBack (Condition.codec_yields root)).decode_render (by decide)
  | project => exact (Project.readsBack value).decode_render (by decide)
  | federationSettings => exact (FederationSettings.readsBack value).decode_render (by decide)
  | orgRoleMapping => exact (OrgRoleMapping.readsBack value).decode_render (by decide)
  | userConflict => exact (UserConflict.readsBack value).decode_render (by decide)
  | connectedOrgConfig => exact (ConnectedOrgConfig.readsBack value).decode_render (by decide)
  | desiredOrgConfig => exact (DesiredOrgConfig.readsBack value).decode_render (by decide)
  | identityProviderSettings => exact IdentityProviderSettings.readsBack decodes plain

/-- Whatever the spelling of a text that decodes to a value, the text that is written of the value
decodes to the value again, and so it is its own normal form. -/
theorem normal_form_is_stable (type : WireType) {text : String} {value : type.Value}
    (reads : type.read text = .ok value) (plain : type.Plain value) :
    type.read (type.write value) = .ok value ∧
      type.normalise (type.write value) = type.normalise text := by
  have again := read_write reads plain
  exact ⟨again, by rw [normalise, normalise, again, reads]⟩

/-- Settings with a null, with a member given twice, with members out of order and with escapes. -/
def entangled : String :=
  "\x7b \"tags\":[1, \x7b\"b\":-7,\"a\":[]\x7d], \"ssoDebugEnabled\":null, " ++
    "\"t\\u0061gs\":\x7b\"z\":18446744073709551615,\"a\":\"\\ud83d\\ude00\\t\"\x7d ,\"id\":\"x\"\x7d"

/-- The same settings as they are written. -/
def disentangled : String :=
  "\x7b\"id\":\"x\",\"tags\":\x7b\"a\":\"😀\\t\",\"z\":18446744073709551615\x7d\x7d"

/-- Entangled settings are brought to their normal form, which stays as it is. -/
theorem normal_form_is_stable_entangled :
    ∃ value, identityProviderSettings.read entangled = .ok value ∧
      identityProviderSettings.Plain value ∧ identityProviderSettings.write value = disentangled ∧
      identityProviderSettings.read disentangled = .ok value ∧
      identityProviderSettings.normalise disentangled =
        identityProviderSettings.normalise entangled := by
  have seen : (identityProviderSettings.read entangled).toOption.map
      (fun value => (identityProviderSettings.write value, Json.haveIntegral value.other)) =
        some (disentangled, true) := by
    decide +kernel
  obtain ⟨value, reads, same⟩ := Json.exists_ok_of_seen seen
  obtain ⟨written, plain⟩ := Prod.mk.inj same
  have stable := normal_form_is_stable identityProviderSettings reads plain
  rw [written] at stable
  exact ⟨value, reads, plain, written, stable⟩

end WireType

end OrgFederation

import OrgFederation.Proofs.Json.MergePatch
import OrgFederation.Proofs.Pass.Differences
import OrgFederation.Proofs.Wire

namespace OrgFederation

section Agreements

variable {agreements : List (String × Bool)}

/-- The names that do not agree are listed in their order. -/
theorem sublist_of_agreements (agreements : List (String × Bool)) :
    (agreements.filterMap fun (name, same) => if same then none else some name).Sublist
      (agreements.map Prod.fst) := by
  induction agreements with
  | nil => exact .slnil
  | cons agreement rest ih =>
      obtain ⟨name, same⟩ := agreement
      cases same with
      | true => exact ih.cons name
      | false => exact ih.cons_cons name

/-- A name is listed exactly when it is one of the compared and does not agree. -/
theorem mem_of_agreements (Agree : String → Prop)
    (told : ∀ agreement ∈ agreements, agreement.2 = true ↔ Agree agreement.1) {name : String} :
    (name ∈ agreements.filterMap fun (name, same) => if same then none else some name) ↔
      name ∈ agreements.map Prod.fst ∧ ¬Agree name := by
  induction agreements with
  | nil => simp
  | cons agreement rest ih =>
      obtain ⟨head, same⟩ := agreement
      obtain ⟨here, others⟩ := List.forall_mem_cons.mp told
      have further := ih others
      cases same with
      | true =>
          have agrees : Agree head := here.mp rfl
          show name ∈ rest.filterMap _ ↔ _
          rw [further, List.map_cons, List.mem_cons]
          constructor
          · rintro ⟨among, differs⟩
            exact ⟨.inr among, differs⟩
          · rintro ⟨rfl | among, differs⟩
            · exact absurd agrees differs
            · exact ⟨among, differs⟩
      | false =>
          have apart : ¬Agree head := fun agrees => Bool.false_ne_true (here.mpr agrees)
          show name ∈ head :: rest.filterMap _ ↔ _
          rw [List.mem_cons, further, List.map_cons, List.mem_cons]
          constructor
          · rintro (rfl | ⟨among, differs⟩)
            · exact ⟨.inl rfl, apart⟩
            · exact ⟨.inr among, differs⟩
          · rintro ⟨rfl | among, differs⟩
            · exact .inl rfl
            · exact .inr ⟨among, differs⟩

end Agreements

namespace Json

/-- Values that are read back are written alike only when they are the same. -/
theorem Codec.ReadsBack.encode_inj {α : Type} {codec : Codec α} {height : Nat} {first second : α}
    (back : codec.ReadsBack height first) (other : codec.ReadsBack height second) :
    codec.encode first = codec.encode second ↔ first = second := by
  constructor
  · intro same
    have reads := back.survives (Nat.lt_succ_self height) rfl
    have readsOther := other.survives (Nat.lt_succ_self height) rfl
    rw [same, readsOther] at reads
    exact (Except.ok.inj reads).symm
  · exact congrArg codec.encode

/-- A document without the member of a name. -/
def withoutMember (name : String) : Json → Json
  | .object members => .object (without name members)
  | other => other

theorem member_withoutMember {name removed : String} (other : name ≠ removed) (document : Json) :
    (document.withoutMember removed).member? name = document.member? name := by
  cases document with
  | object members => exact lookup_filter_ne other
  | _ => rfl

end Json

/-- What is written of lists of texts tells them apart. -/
theorem Json.ofTexts_inj {first second : List String} :
    Json.ofTexts first = Json.ofTexts second ↔ first = second := by
  rw [ofTexts, ofTexts, array.injEq]
  exact List.map_inj_right fun _ _ same => string.inj same

namespace DesiredOrgConfig

/-- A configuration is written as these members, in this order. -/
theorem members_encode (config : DesiredOrgConfig) :
    fields.names.map (fun name => (codec.encode config).member? name) =
      [some (.string config.orgId), some (.string config.identityProviderId),
        some (.ofTexts config.domainAllowList), config.domainRestrictionEnabled.map .bool,
        some (.ofTexts config.postAuthRoleGrants),
        some (OrgRoleMapping.codec.list.encode config.roleMappings)] := by
  rcases config with ⟨org, provider, domains, restricted, grants, mappings⟩
  cases restricted <;> rfl

/-- Configurations are written alike only when they are the same. -/
theorem encode_inj {first second : DesiredOrgConfig} :
    codec.encode first = codec.encode second ↔ first = second :=
  first.readsBack.encode_inj second.readsBack

end DesiredOrgConfig

namespace ConnectedOrgConfig

/-- What is reported, but for the users in conflict. -/
def compared (config : ConnectedOrgConfig) : DesiredOrgConfig :=
  ⟨config.orgId, config.identityProviderId, config.domainAllowList,
    config.domainRestrictionEnabled, config.postAuthRoleGrants, config.roleMappings⟩

theorem eq_stored_iff {config : ConnectedOrgConfig} {desired : DesiredOrgConfig} :
    config = desired.stored config.userConflicts ↔ desired = config.compared := by
  constructor
  · intro same
    rw [same]
    rfl
  · rintro rfl
    rfl

/-- Without the users in conflict, a report is written like the configuration that is compared. -/
theorem encode_withoutMember (config : ConnectedOrgConfig) :
    (codec.encode config).withoutMember "userConflicts" =
      DesiredOrgConfig.codec.encode config.compared := by
  rcases config with ⟨org, provider, domains, restricted, grants, mappings, conflicts⟩
  cases restricted <;> cases conflicts <;> rfl

theorem member_encode (config : ConnectedOrgConfig) {name : String}
    (compared : name ∈ DesiredOrgConfig.fields.names) :
    (codec.encode config).member? name =
      (DesiredOrgConfig.codec.encode config.compared).member? name := by
  have other : name ≠ "userConflicts" := by
    rintro rfl
    exact absurd compared (by decide)
  rw [← encode_withoutMember, Json.member_withoutMember other]

end ConnectedOrgConfig

/-- The names under which configurations are compared, in the order in which they are written. -/
def comparedNames : List String :=
  ["orgId", "identityProviderId", "domainAllowList", "domainRestrictionEnabled",
    "postAuthRoleGrants", "roleMappings"]

/-- Fields and what is written of them differ alike. -/
theorem mem_differingFields_iff {desired : DesiredOrgConfig} {observed : ConnectedOrgConfig}
    {name : String} : name ∈ differingFields desired observed ↔ name ∈ comparedNames ∧
      (DesiredOrgConfig.codec.encode desired).member? name ≠
        (DesiredOrgConfig.codec.encode observed.compared).member? name := by
  have wanted := desired.members_encode
  have held := observed.compared.members_encode
  simp only [show DesiredOrgConfig.fields.names = comparedNames from rfl, comparedNames,
    List.map_cons, List.map_nil, List.cons.injEq, and_true] at wanted held
  obtain ⟨org, provider, domains, restricted, grants, mappings⟩ := wanted
  obtain ⟨heldOrg, heldProvider, heldDomains, heldRestricted, heldGrants, heldMappings⟩ := held
  have mappings_inj : OrgRoleMapping.codec.list.encode desired.roleMappings =
      OrgRoleMapping.codec.list.encode observed.compared.roleMappings ↔
        desired.roleMappings = observed.roleMappings :=
    (Json.Codec.list_readsBack fun mapping _ => mapping.readsBack).encode_inj
      (Json.Codec.list_readsBack fun mapping _ => mapping.readsBack)
  rw [differingFields, mem_of_agreements fun name =>
    (DesiredOrgConfig.codec.encode desired).member? name =
      (DesiredOrgConfig.codec.encode observed.compared).member? name]
  · exact Iff.rfl
  · simp only [List.forall_mem_cons]
    refine ⟨?_, ?_, ?_, ?_, ?_, ?_, ?_⟩
    · rw [org, heldOrg, beq_iff_eq, Option.some.injEq, Json.string.injEq]
      rfl
    · rw [provider, heldProvider, beq_iff_eq, Option.some.injEq, Json.string.injEq]
      rfl
    · rw [domains, heldDomains, beq_iff_eq, Option.some.injEq, Json.ofTexts_inj]
      rfl
    · rw [restricted, heldRestricted, beq_iff_eq,
        (Option.map_injective fun _ _ same => Json.bool.inj same).eq_iff]
      rfl
    · rw [grants, heldGrants, beq_iff_eq, Option.some.injEq, Json.ofTexts_inj]
      rfl
    · rw [mappings, heldMappings, sameMappings_iff, Option.some.injEq, mappings_inj]
    · intro field listed
      cases listed

/-- The fields that differ are just those compared members in which what is written of the wanted
configuration and of the reported one differs, in the order in which they are written and each once.
None differs exactly when the documents are the same without the users in conflict, and these make no
difference. -/
theorem differences_agree_with_documents (desired : DesiredOrgConfig)
    (observed : ConnectedOrgConfig) :
    let wanted := DesiredOrgConfig.codec.encode desired
    let reported := ConnectedOrgConfig.codec.encode observed
    comparedNames.Nodup ∧ (differingFields desired observed).Sublist comparedNames ∧
    (∀ name, name ∈ differingFields desired observed ↔
      name ∈ comparedNames ∧ wanted.member? name ≠ reported.member? name) ∧
    (differingFields desired observed = [] ↔
      wanted = reported.withoutMember "userConflicts") ∧
    ∀ conflicts, differingFields desired { observed with userConflicts := conflicts } =
      differingFields desired observed := by
  intro wanted reported
  refine ⟨by decide, sublist_of_agreements _, fun name => ?_, ?_, fun conflicts => rfl⟩
  · rw [mem_differingFields_iff]
    refine and_congr_right fun among => ?_
    rw [observed.member_encode among]
  · rw [observed.encode_withoutMember, DesiredOrgConfig.encode_inj,
      ← ConnectedOrgConfig.eq_stored_iff, differingFields_eq_nil_iff]

end OrgFederation

import OrgFederation.Pass.Differences

namespace OrgFederation

/-- Role mappings agree when they are equal. -/
theorem sameMappings_iff {desired observed : List OrgRoleMapping} :
    sameMappings desired observed = true ↔ desired = observed := by
  induction desired generalizing observed with
  | nil => cases observed <;> simp [sameMappings]
  | cons wanted rest ih =>
      cases observed with
      | nil => simp [sameMappings]
      | cons held others =>
          rw [List.cons.injEq, ← ih]
          rcases wanted with ⟨group, id, roles⟩
          rcases held with ⟨heldGroup, heldId, heldRoles⟩
          simp only [sameMappings, List.length_cons, List.zip_cons_cons, List.all_cons,
            Bool.and_eq_true, beq_iff_eq, Nat.add_right_cancel_iff, OrgRoleMapping.mk.injEq]
          constructor
          · rintro ⟨long, ⟨⟨sameGroup, sameId⟩, sameRoles⟩, further⟩
            exact ⟨⟨sameGroup, sameId, sameRoles⟩, long, further⟩
          · rintro ⟨⟨sameGroup, sameId, sameRoles⟩, long, further⟩
            exact ⟨long, ⟨⟨sameGroup, sameId⟩, sameRoles⟩, further⟩

/-- No field differs exactly when the wanted configuration is stored. -/
theorem differingFields_eq_nil_iff {desired : DesiredOrgConfig} {observed : ConnectedOrgConfig} :
    differingFields desired observed = [] ↔ observed = desired.stored observed.userConflicts := by
  have passed (same : Bool) (name : String) :
      (if same then none else some name) = none ↔ same = true := by
    cases same <;> simp
  rcases desired with ⟨org, provider, domains, restricted, grants, mappings⟩
  rcases observed with ⟨heldOrg, heldProvider, heldDomains, heldRestricted, heldGrants,
    heldMappings, conflicts⟩
  simp only [differingFields, List.filterMap_eq_nil_iff, List.forall_mem_cons, passed, beq_iff_eq,
    sameMappings_iff, List.not_mem_nil, false_implies, implies_true, and_true,
    DesiredOrgConfig.stored, ConnectedOrgConfig.mk.injEq]
  constructor
  · rintro ⟨rfl, rfl, rfl, rfl, rfl, rfl⟩
    exact ⟨rfl, rfl, rfl, rfl, rfl, rfl⟩
  · rintro ⟨rfl, rfl, rfl, rfl, rfl, rfl⟩
    exact ⟨rfl, rfl, rfl, rfl, rfl, rfl⟩

/-- Nothing differs from a configuration that has been stored. -/
@[simp] theorem differingFields_stored (desired : DesiredOrgConfig)
    (conflicts : Option (List UserConflict)) :
    differingFields desired (desired.stored conflicts) = [] :=
  differingFields_eq_nil_iff.mpr rfl

/-- A configuration without differences is linked to the wanted identity provider. -/
theorem identityProviderId_of_differingFields {desired : DesiredOrgConfig}
    {observed : ConnectedOrgConfig} (same : differingFields desired observed = []) :
    observed.identityProviderId = desired.identityProviderId := by
  rw [differingFields_eq_nil_iff.mp same]
  rfl

end OrgFederation

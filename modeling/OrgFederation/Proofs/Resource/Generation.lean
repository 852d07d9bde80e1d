import OrgFederation.Proofs.Json.Members
import OrgFederation.Proofs.Json.Yields
import OrgFederation.Resource.Metadata

namespace OrgFederation

open Json

namespace Metadata

/-- An entry that is found was decoded by the codec of its field. -/
def Found (fields : LooseFields) (found : List (String × Option Json)) : Prop :=
  ∀ entry ∈ found, ∃ codec, fields.lookup entry.1 = some codec ∧
    ∃ depth node, codec.decode depth node = .ok entry.2

/-- An entry with a field is decoded by its codec. -/
theorem decodeEntries_of_field {fields : LooseFields} {name : String} {codec : Codec (Option Json)}
    (isField : fields.lookup name = some codec) (depth : Nat) (node : Node) (rest : Entries)
    (found : List (String × Option Json)) :
    decodeEntries fields depth (.entry (.ok name) node rest) found =
      codec.decode depth node >>= fun value =>
        decodeEntries fields depth rest ((name, value) :: found) := by
  simp only [decodeEntries, mapError_ok, bind, Except.bind, isField]

/-- An entry without field is skipped. -/
theorem decodeEntries_of_noField {fields : LooseFields} {name : String}
    (noField : fields.lookup name = none) (depth : Nat) (node : Node) (rest : Entries)
    (found : List (String × Option Json)) :
    decodeEntries fields depth (.entry (.ok name) node rest) found =
      node.skip >>= fun _ => decodeEntries fields depth rest found := by
  simp only [decodeEntries, mapError_ok, bind, Except.bind, noField]

theorem decodeEntries_found {fields : LooseFields} {depth : Nat} :
    ∀ {entries : Entries} {found later : List (String × Option Json)}, Found fields found →
      decodeEntries fields depth entries found = .ok later → Found fields later
  | .closed, _, _, known, decodes => by
      cases decodes
      exact known
  | .broken _, _, _, _, decodes => by cases decodes
  | .entry (.error _) _ _, _, _, _, decodes => by cases decodes
  | .entry (.ok name) node rest, found, later, known, decodes => by
      cases place : fields.lookup name with
      | some codec =>
          rw [decodeEntries_of_field place] at decodes
          obtain ⟨value, here, decodes⟩ := bind_eq_ok_iff.mp decodes
          exact decodeEntries_found
            (List.forall_mem_cons.mpr ⟨⟨codec, place, depth, node, here⟩, known⟩) decodes
      | none =>
          rw [decodeEntries_of_noField place] at decodes
          obtain ⟨_, -, decodes⟩ := bind_eq_ok_iff.mp decodes
          exact decodeEntries_found known decodes

/-- When every step inserts at most the value that is chosen for its name, a member that was not there
before is the value chosen for its name. -/
theorem lookup_foldl_insert {α : Type} {step : Members → String × α → Members}
    (chosen : String → Option Json)
    (inserts : ∀ members field, step members field = members ∨
      ∃ value, chosen field.1 = some value ∧ step members field = members.insert field.1 value)
    {name : String} {value : Json} (listed : List (String × α)) {members : Members}
    (held : (listed.foldl step members).lookup name = some value) :
    members.lookup name = some value ∨ chosen name = some value := by
  induction listed generalizing members with
  | nil => exact .inl held
  | cons field rest ih =>
      rcases ih held with before | collected
      · rcases inserts members field with same | ⟨inserted, choice, same⟩
        · exact .inl (same ▸ before)
        · rw [same, Members.lookup_insert] at before
          split at before
          · next named => exact .inr (named ▸ choice.trans before)
          · exact .inl before
      · exact .inr collected

/-- A member of decoded members was decoded by the codec of its field, unless it stands for an absent
one. -/
theorem lookup_decodeLoose {expected : String} {fields : LooseFields} {absent : Members}
    {depth : Nat} {node : Node} {members : Members}
    (decodes : decodeLoose expected fields absent depth node = .ok members) {name : String}
    {value : Json} (held : members.lookup name = some value) :
    (∃ codec, fields.lookup name = some codec ∧
      ∃ depth node, codec.decode depth node = .ok (some value)) ∨
      absent.lookup name = some value := by
  cases node with
  | object entries =>
      rw [decodeLoose] at decodes
      obtain ⟨found, entriesDecode, same⟩ := bind_eq_ok_iff.mp (inside_of_entering decodes)
      cases same
      have nothing : Found fields [] := by
        rintro entry ⟨⟩
      have known := decodeEntries_found nothing entriesDecode
      have collected : ((found.lookup name).join <|> absent.lookup name) = some value := by
        refine (lookup_foldl_insert (fun name => (found.lookup name).join <|> absent.lookup name)
          (fun members field => ?_) fields held).resolve_left nofun
        obtain ⟨key, -⟩ := field
        cases stands : ((found.lookup key).join <|> absent.lookup key) with
        | none =>
            left
            simp only [stands]
        | some inserted =>
            right
            exact ⟨inserted, rfl, by simp only [stands]⟩
      cases given : (found.lookup name).join with
      | none =>
          rw [given] at collected
          exact .inr collected
      | some chosen =>
          rw [given] at collected
          cases collected
          obtain ⟨before, behind, rfl, -⟩ :=
            List.lookup_eq_some_iff.mp (Option.join_eq_some_iff.mp given)
          exact .inl (known (name, some value) (by simp))
  | _ => cases decodes

/-- The generation of metadata that decode has 64 bits. -/
theorem generation_yields : codec.Yields fun metadata => ∀ generation ∈ metadata.generation,
    Word64.leastSigned ≤ generation ∧ generation ≤ Word64.greatestSigned := by
  intro depth node metadata decodes generation held
  obtain ⟨members, loose, rfl⟩ := map_eq_ok_iff.mp decodes
  have found : members.lookup "generation" = some (.ofInt generation) := by
    simp only [ofMembers, integer?] at held
    split at held
    · next same =>
        cases held
        exact same
    · cases held
  rcases lookup_decodeLoose loose found with ⟨codec, isField, depth, node, decodes⟩ | absent
  · cases isField
    obtain ⟨value, decodes, same⟩ := map_eq_ok_iff.mp decodes
    obtain ⟨kept, rfl, same⟩ := Option.map_eq_some_iff.mp same
    cases same
    exact Codec.optional_yields Codec.integer_yields decodes generation rfl
  · cases absent

end Metadata

end OrgFederation

import OrgFederation.Proofs.Json.Objects

namespace OrgFederation.Json

/-- Whatever a codec decodes has a property. -/
def Codec.Yields {α : Type} (codec : Codec α) (good : α → Prop) : Prop :=
  ∀ ⦃depth : Nat⦄ ⦃node : Node⦄ ⦃value : α⦄, codec.decode depth node = .ok value → good value

namespace Codec

variable {α : Type} {codec : Codec α} {good : α → Prop}

/-- An integer that decodes lies between its bounds. -/
theorem integer_yields {least greatest : Int} {expected : String} :
    (integer least greatest expected).Yields fun value => least ≤ value ∧ value ≤ greatest := by
  intro depth node value decodes
  simp only [integer] at decodes
  split at decodes
  · split at decodes
    · next within =>
        cases decodes
        simpa using within
    · cases decodes
  · cases decodes

/-- An unsigned integer that decodes is a word of 64 bits. -/
theorem word64_yields : word64.Yields fun value => value ≤ Word64.greatest := by
  intro depth node value decodes
  obtain ⟨read, within, rfl⟩ := map_eq_ok_iff.mp decodes
  have bounds := integer_yields within
  omega

theorem decodeItems_yields (yields : codec.Yields good) {depth : Nat} {items : Items}
    {values : List α} (decodes : codec.decodeItems depth items = .ok values) :
    ∀ value ∈ values, good value := by
  induction values generalizing items with
  | nil => simp
  | cons value rest ih =>
      cases items with
      | closed => cases decodes
      | broken fault => cases decodes
      | item head items =>
          rw [decodeItems, bind_eq_ok_iff] at decodes
          obtain ⟨_, here, decodes⟩ := decodes
          obtain ⟨_, others, same⟩ := bind_eq_ok_iff.mp decodes
          cases same
          exact List.forall_mem_cons.mpr ⟨yields here, ih others⟩

theorem list_yields (yields : codec.Yields good) :
    codec.list.Yields fun values => ∀ value ∈ values, good value := by
  intro depth node values decodes
  cases node with
  | array items =>
      rw [list_decode_array] at decodes
      exact decodeItems_yields yields (inside_of_entering decodes)
  | _ => cases decodes

theorem optional_yields (yields : codec.Yields good) :
    codec.optional.Yields fun value => ∀ held ∈ value, good held := by
  rintro depth node value decodes held rfl
  cases node with
  | null => cases decodes
  | _ =>
      obtain ⟨_, inner, same⟩ := map_eq_ok_iff.mp decodes
      cases same
      exact yields inner

end Codec

/-- A field gives the values that its codec decodes and those that stand for its absence. -/
inductive Field.Gives {α : Type} (field : Field α) (value : α) : Prop
  | decoded {depth : Nat} {node : Node} (decodes : field.codec.decode depth node = .ok value)
  | absentEntry (stands : field.absentEntry = some value)
  | absentItem (stands : field.absentItem = some value)

/-- A field without a value for its absence gives what its codec yields. -/
theorem Field.Gives.of_required {α : Type} {name : String} {codec : Codec α} {good : α → Prop}
    {value : α} (gives : (Field.required name codec).Gives value) (yields : codec.Yields good) :
    good value := by
  cases gives with
  | decoded decodes => exact yields decodes
  | absentEntry stands => cases stands
  | absentItem stands => cases stands

/-- A field that may be unset gives nothing or what its codec yields. -/
theorem Field.Gives.of_optional {α : Type} {name : String} {codec : Codec α} {good : α → Prop}
    {value : Option α} (gives : (Field.optional name codec).Gives value)
    (yields : codec.Yields good) : ∀ held ∈ value, good held := by
  cases gives with
  | decoded decodes => exact Codec.optional_yields yields decodes
  | absentEntry stands =>
      cases stands
      exact nofun
  | absentItem stands =>
      cases stands
      exact nofun

/-- A list that is not written when it is empty has the items that its codec yields. -/
theorem Field.Gives.of_elidedList {α : Type} {name : String} {codec : Codec α} {good : α → Prop}
    {values : List α} (gives : (Field.elidedList name codec).Gives values)
    (yields : codec.Yields good) : ∀ value ∈ values, good value := by
  cases gives with
  | decoded decodes => exact Codec.list_yields yields decodes
  | absentEntry stands =>
      cases stands
      exact nofun
  | absentItem stands =>
      cases stands
      exact nofun

namespace Fields

/-- Every field gives its value. -/
def Give : {α : Type} → Fields α → α → Prop
  | _, .nil, _ => True
  | _, .cons head rest, values => head.Gives values.1 ∧ rest.Give values.2

variable {α : Type} {fields : Fields α} {depth : Nat}

theorem give_of_reads {entries : List (String × Node)} {values : α}
    (reads : fields.Reads depth entries values) : fields.Give values := by
  induction fields with
  | nil => trivial
  | cons head rest ih =>
      obtain ⟨here, others⟩ := reads
      refine ⟨?_, ih others⟩
      generalize nodesOf head.name entries = nodes at here
      cases here with
      | held decodes => exact .decoded decodes
      | absent stands => exact .absentEntry stands

theorem give_of_decodeItems {expected : String} {position : Nat} {items : Items} {values : α}
    (decodes : fields.decodeItems depth expected position items = .ok values) :
    fields.Give values := by
  induction fields generalizing position items with
  | nil => trivial
  | cons head rest ih =>
      cases items with
      | closed =>
          rw [decodeItems] at decodes
          split at decodes
          · cases decodes
          · next standing stands =>
              obtain ⟨further, others, rfl⟩ := map_eq_ok_iff.mp decodes
              exact ⟨.absentItem stands, ih others⟩
      | broken fault => cases decodes
      | item node items =>
          rw [decodeItems, bind_eq_ok_iff] at decodes
          obtain ⟨value, here, decodes⟩ := decodes
          obtain ⟨further, others, same⟩ := bind_eq_ok_iff.mp decodes
          cases same
          exact ⟨.decoded here, ih others⟩

/-- Entries that decode all have names. -/
theorem exists_ofList_of_decodeEntries {values : α} :
    ∀ {entries : Entries} {draft : fields.Draft},
      fields.decodeEntries depth entries draft = .ok values → ∃ listed, entries = .ofList listed
  | .closed, _, _ => ⟨[], rfl⟩
  | .broken _, _, decodes => by cases decodes
  | .entry (.error _) _ _, _, decodes => by cases decodes
  | .entry (.ok name) node rest, draft, decodes => by
      have further : ∃ next, fields.decodeEntries depth rest next = .ok values := by
        cases place : fields.store depth name node draft with
        | some stored =>
            rw [decodeEntries_of_store place] at decodes
            obtain ⟨next, -, decodes⟩ := bind_eq_ok_iff.mp decodes
            exact ⟨next, decodes⟩
        | none =>
            rw [decodeEntries_of_notMem (store_eq_none_iff.mp place)] at decodes
            obtain ⟨_, -, decodes⟩ := bind_eq_ok_iff.mp decodes
            exact ⟨draft, decodes⟩
      obtain ⟨next, decodes⟩ := further
      obtain ⟨listed, rfl⟩ := exists_ofList_of_decodeEntries decodes
      exact ⟨(name, node) :: listed, rfl⟩

/-- A record that decodes is built of values that its fields give. -/
theorem codec_yields (distinct : fields.names.Nodup) {τ : Type} (name : String) (build : α → τ)
    (parts : τ → α) :
    (fields.codec name build parts).Yields fun value =>
      ∃ values, fields.Give values ∧ build values = value := by
  intro depth node value decodes
  cases node with
  | object entries =>
      rw [codec_decode_object] at decodes
      obtain ⟨values, found, rfl⟩ := map_eq_ok_iff.mp (inside_of_entering decodes)
      obtain ⟨listed, rfl⟩ := exists_ofList_of_decodeEntries found
      exact ⟨values, give_of_reads ((decodeEntries_eq_ok_iff distinct).mp found).1, rfl⟩
  | array items =>
      simp only [codec] at decodes
      obtain ⟨values, found, rfl⟩ := map_eq_ok_iff.mp (inside_of_entering decodes)
      exact ⟨values, give_of_decodeItems found, rfl⟩
  | _ => cases decodes

end Fields

end OrgFederation.Json

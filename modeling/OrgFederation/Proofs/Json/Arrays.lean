import OrgFederation.Proofs.Json.Renditions
import OrgFederation.Proofs.Json.Yields

namespace OrgFederation.Json.Fields

/-- Every field reads its value from the node at its place. The fields behind the last node have
values for their absence, and no node is left over. -/
def ReadsInOrder (depth : Nat) : {α : Type} → Fields α → List Node → α → Prop
  | _, .nil, nodes, _ => nodes = []
  | _, .cons head rest, [], values =>
      head.absentItem = some values.1 ∧ rest.ReadsInOrder depth [] values.2
  | _, .cons head rest, node :: nodes, values =>
      head.codec.decode depth node = .ok values.1 ∧ rest.ReadsInOrder depth nodes values.2

variable {α : Type} {fields : Fields α} {depth : Nat}

theorem eq_nil_of_closed {nodes : List Node} (closed : Items.closed = .ofList nodes) :
    nodes = [] := by
  cases nodes with
  | nil => rfl
  | cons node nodes => cases closed

theorem broken_ne_ofList {fault : Fault} {nodes : List Node} :
    Items.broken fault ≠ .ofList nodes := by
  cases nodes <;> exact fun same => by cases same

/-- Fields that read nothing have values for the absence of all items. -/
theorem decodeItems_closed_eq_ok_iff {expected : String} {position : Nat} {values : α} :
    fields.decodeItems depth expected position .closed = .ok values ↔
      fields.ReadsInOrder depth [] values := by
  induction fields generalizing position with
  | nil => simp [decodeItems, ReadsInOrder]
  | cons head rest ih =>
      obtain ⟨value, further⟩ := values
      rw [decodeItems, ReadsInOrder]
      cases head.absentItem with
      | none => simp
      | some standing => simp [map_eq_ok_iff, ih, and_comm]

/-- The items of an array decode to a tuple of values exactly when every field reads its value. -/
theorem decodeItems_eq_ok_iff {expected : String} {position : Nat} {items : Items} {values : α} :
    fields.decodeItems depth expected position items = .ok values ↔
      ∃ nodes, items = .ofList nodes ∧ fields.ReadsInOrder depth nodes values := by
  induction fields generalizing position items with
  | nil =>
      cases items <;> simp [decodeItems, ReadsInOrder, Items.ofList]
  | cons head rest ih =>
      cases items with
      | closed =>
          rw [decodeItems_closed_eq_ok_iff]
          constructor
          · exact fun reads => ⟨[], rfl, reads⟩
          · rintro ⟨nodes, closed, reads⟩
            rwa [eq_nil_of_closed closed] at reads
      | broken fault =>
          refine iff_of_false (fun same => by cases same) ?_
          rintro ⟨nodes, broken, -⟩
          exact broken_ne_ofList broken
      | item node items =>
          obtain ⟨value, further⟩ := values
          simp only [decodeItems, bind_eq_ok_iff, ih]
          constructor
          · rintro ⟨_, here, _, ⟨nodes, rfl, others⟩, same⟩
            cases same
            exact ⟨node :: nodes, rfl, here, others⟩
          · rintro ⟨nodes, listed, reads⟩
            cases nodes with
            | nil => cases listed
            | cons first nodes =>
                cases listed
                exact ⟨value, reads.1, further, ⟨nodes, rfl, reads.2⟩, rfl⟩

/-- A node decodes to a record exactly when it may be entered and is an object whose entries are read
by the fields, or an array whose items are. -/
theorem codec_decode_eq_ok_iff (distinct : fields.names.Nodup) {τ : Type} {name : String}
    {build : α → τ} {parts : τ → α} {node : Node} {value : τ} :
    (fields.codec name build parts).decode depth node = .ok value ↔
      1 < depth ∧ ∃ values, build values = value ∧
        ((∃ entries, node = .object (.ofList entries) ∧ fields.Reads (depth - 1) entries values ∧
          ∀ entry ∈ entries, entry.1 ∉ fields.names → entry.2.textFault = none) ∨
        ∃ nodes, node = .array (.ofList nodes) ∧ fields.ReadsInOrder (depth - 1) nodes values) := by
  cases node with
  | object entries =>
      constructor
      · intro decodes
        rw [codec_decode_object] at decodes
        obtain ⟨values, found, built⟩ := map_eq_ok_iff.mp (inside_of_entering decodes)
        obtain ⟨listed, rfl⟩ := exists_ofList_of_decodeEntries found
        obtain ⟨reads, formed⟩ := (decodeEntries_eq_ok_iff distinct).mp found
        exact ⟨room_of_entering decodes, values, built, .inl ⟨listed, rfl, reads, formed⟩⟩
      · rintro ⟨room, values, built, ⟨listed, same, reads, formed⟩ | ⟨nodes, same, -⟩⟩
        · cases same
          exact (codec_decode_object_eq_ok_iff distinct).mpr ⟨room, values, ⟨reads, formed⟩, built⟩
        · cases same
  | array items =>
      simp only [codec]
      constructor
      · intro decodes
        obtain ⟨values, found, built⟩ := map_eq_ok_iff.mp (inside_of_entering decodes)
        obtain ⟨nodes, rfl, reads⟩ := decodeItems_eq_ok_iff.mp found
        exact ⟨room_of_entering decodes, values, built, .inr ⟨nodes, rfl, reads⟩⟩
      · rintro ⟨room, values, built, ⟨listed, same, -⟩ | ⟨nodes, same, reads⟩⟩
        · cases same
        · cases same
          rw [entering_of_lt room]
          exact map_eq_ok_iff.mpr ⟨values, decodeItems_eq_ok_iff.mpr ⟨nodes, rfl, reads⟩, built⟩
  | _ =>
      refine iff_of_false (fun same => by cases same) ?_
      rintro ⟨-, values, -, ⟨listed, same, -⟩ | ⟨nodes, same, -⟩⟩ <;> cases same

end OrgFederation.Json.Fields

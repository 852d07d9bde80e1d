import OrgFederation.Proofs.Json.Renditions

namespace OrgFederation.Json

/-- The members of an object as the entries that a reader finds. -/
def nodes (members : List (String × Json)) : List (String × Node) :=
  members.map fun member => (member.1, .ofJson member.2)

@[simp] theorem nodes_cons (name : String) (value : Json) (rest : List (String × Json)) :
    nodes ((name, value) :: rest) = (name, .ofJson value) :: nodes rest := rfl

theorem Entries.ofJson_eq (members : List (String × Json)) :
    Entries.ofJson members = .ofList (nodes members) := by
  induction members with
  | nil => rfl
  | cons member rest ih =>
      rw [Entries.ofJson, ih]
      rfl

theorem Items.ofJson_eq (values : List Json) :
    Items.ofJson values = .ofList (values.map Node.ofJson) := by
  induction values with
  | nil => rfl
  | cons value rest ih =>
      rw [Items.ofJson, ih]
      rfl

mutual

/-- The node of a value has no fault. -/
@[simp] theorem Node.textFault_ofJson : (value : Json) → (Node.ofJson value).textFault = none
  | .null => rfl
  | .bool _ => rfl
  | .number _ => rfl
  | .string _ => rfl
  | .array values => Items.textFault_ofJson values
  | .object members => Entries.textFault_ofJson members

@[simp] theorem Items.textFault_ofJson :
    (values : List Json) → (Items.ofJson values).textFault = none
  | [] => rfl
  | value :: rest => by
      rw [Items.ofJson, Items.textFault, Node.textFault_ofJson value, Items.textFault_ofJson rest]
      rfl

@[simp] theorem Entries.textFault_ofJson :
    (members : List (String × Json)) → (Entries.ofJson members).textFault = none
  | [] => rfl
  | (_, value) :: rest => by
      rw [Entries.ofJson, Entries.textFault, Node.textFault_ofJson value,
        Entries.textFault_ofJson rest]
      rfl

end

/-- The entries of an object that was written are well-formed. -/
theorem textFault_of_mem_nodes {members : List (String × Json)} {entry : String × Node}
    (listed : entry ∈ nodes members) : entry.2.textFault = none := by
  obtain ⟨member, -, rfl⟩ := List.mem_map.mp listed
  exact Node.textFault_ofJson member.2

/-- An object holds nothing under a name that none of its members has. -/
theorem nodesOf_nodes_of_notMem {name : String} {members : List (String × Json)}
    (unknown : name ∉ members.map Prod.fst) : nodesOf name (nodes members) = [] := by
  induction members with
  | nil => rfl
  | cons member rest ih =>
      obtain ⟨different, others⟩ := List.ne_and_not_mem_of_not_mem_cons unknown
      rw [nodes_cons, nodesOf_cons_other different.symm, ih others]

/-- The first node under a name is that of the member that is found by it. -/
theorem head_nodesOf_nodes (name : String) (members : List (String × Json)) :
    (nodesOf name (nodes members)).head? = (members.lookup name).map Node.ofJson := by
  induction members with
  | nil => rfl
  | cons member rest ih =>
      obtain ⟨held, value⟩ := member
      rw [nodes_cons, List.lookup_cons]
      by_cases same : name = held
      · subst same
        rw [nodesOf_cons_self, beq_self_eq_true]
        rfl
      · rw [nodesOf_cons_other (Ne.symm same), beq_false_of_ne same, ih]

/-- Only null decodes to nothing. -/
theorem Codec.optional_eq_none_iff {α : Type} {codec : Codec α} {depth : Nat} {node : Node}
    {value : Option α} (decodes : codec.optional.decode depth node = .ok value) :
    value = none ↔ node = .null := by
  cases node with
  | null =>
      cases decodes
      simp
  | _ =>
      obtain ⟨held, -, rfl⟩ := map_eq_ok_iff.mp decodes
      simp

/-- A field that may be unset reads what its member decodes to, and null where there is none. -/
theorem Field.Reads.member {α : Type} {field : Field (Option α)} {codec : Codec α}
    (isOptional : field.codec = codec.optional) (absent : field.absentEntry = some none)
    {name : String} {depth : Nat} {members : List (String × Json)} {value : Option α}
    (reads : field.Reads depth (nodesOf name (nodes members)) value) :
    codec.optional.decode depth (.ofJson ((members.lookup name).getD .null)) = .ok value := by
  have first := head_nodesOf_nodes name members
  generalize nodesOf name (nodes members) = found at reads first
  cases lookup : members.lookup name with
  | none =>
      rw [lookup] at first
      cases reads with
      | absent stands =>
          rw [absent] at stands
          cases stands
          rfl
      | held decodes => cases first
  | some held =>
      rw [lookup] at first
      cases reads with
      | absent stands => cases first
      | held decodes =>
          cases first
          exact isOptional ▸ decodes

namespace Rendition

/-- An array as it was written has each item as it was written. -/
theorem exact.each {values : List Json} {node : Node} (alike : exact (.array values) node) :
    Each exact (.array values) node := by
  cases alike
  rw [Node.ofJson, Items.ofJson_eq]
  refine .intro ?_
  induction values with
  | nil => exact .nil
  | cons value rest ih => exact .cons rfl ih

/-- Among members of different names, each is there as it was written. -/
theorem kept_nodesOf {members : List (String × Json)} (distinct : (members.map Prod.fst).Nodup)
    (name : String) : Kept exact (members.lookup name) (nodesOf name (nodes members)) := by
  induction members with
  | nil => exact .absent
  | cons member rest ih =>
      obtain ⟨held, value⟩ := member
      obtain ⟨fresh, distinct⟩ := List.nodup_cons.mp distinct
      rw [nodes_cons, List.lookup_cons]
      by_cases same : name = held
      · subst same
        rw [nodesOf_cons_self, nodesOf_nodes_of_notMem fresh, beq_self_eq_true]
        exact .held rfl
      · rw [nodesOf_cons_other (Ne.symm same), beq_false_of_ne same]
        exact ih distinct

end Rendition

namespace Codec

/-- An integer between the bounds is read back. -/
theorem integer_survives {least greatest value : Int} {expected : String} (notBelow : least ≤ value)
    (notAbove : value ≤ greatest) : (integer least greatest expected).Survives .exact 0 value := by
  rintro depth node - rfl
  simp [integer, Json.ofInt, Node.ofJson, notBelow, notAbove]

theorem integer_refusesNull {least greatest : Int} {expected : String} :
    (integer least greatest expected).RefusesNull := by
  rintro depth value ⟨⟩

/-- A choice is read back when its name stands for it. -/
theorem choice_survives {α : Type} {variants : List (String × α)} {nameOf : α → String} {value : α}
    (named : variants.lookup (nameOf value) = some value) :
    (choice variants nameOf).Survives .exact 0 value := by
  rintro depth node - rfl
  simp [choice, Node.ofJson, named]

/-- A list is read back when its items are. -/
theorem list_survives_exact {α : Type} {codec : Codec α} {height : Nat} {values : List α}
    (survive : ∀ value ∈ values, codec.Survives .exact height value) :
    codec.list.Survives .exact (height + 1) values :=
  fun _ _ room alike => list_survives survive room alike.each

end Codec

namespace Field

variable {α : Type} {codec : Codec α} {height : Nat} {name : String}

/-- A field that is not written at a value is read back as that value where it is not found. -/
theorem elided_survives [BEq α] [LawfulBEq α] {value fallback : α}
    (survives : codec.Survives .exact height value) :
    (elided name codec fallback).Survives (Rendition.Kept .exact) height value := by
  by_cases same : value = fallback
  · exact survives_of_omitted (by simp [elided, same]) (congrArg some same.symm)
  · exact survives_of_written (by simp [elided, same]) survives

end Field

namespace Fields

variable {α : Type} {fields : Fields α}

/-- What is written under different names stays under different names. -/
theorem encode_names_sublist (values : α) :
    List.Sublist ((fields.encode values).map Prod.fst) fields.names := by
  induction fields with
  | nil => exact .slnil
  | cons head rest ih =>
      rw [encode]
      split
      · exact (ih values.2).cons _
      · exact (ih values.2).cons_cons _

/-- Every name is known, with its member as it was written. -/
def verbatim (fields : Fields α) : Rendition.Known :=
  fields.names.map fun name => (name, Rendition.Kept .exact)

theorem lookup_verbatim {name : String} {member : Option Json → List Node → Prop}
    (known : fields.verbatim.lookup name = some member) : member = Rendition.Kept .exact := by
  obtain ⟨before, behind, same, -⟩ := List.lookup_eq_some_iff.mp known
  have listed : (name, member) ∈ fields.verbatim := by simp [same]
  simp only [verbatim, List.mem_map, Prod.mk.injEq] at listed
  obtain ⟨_, _, -, rfl⟩ := listed
  rfl

/-- A record is read back as it was written when its fields are. -/
theorem codec_survives_exact (distinct : fields.names.Nodup) {height : Nat} {τ : Type} {name : String}
    {build : α → τ} {parts : τ → α} {value : τ} (rebuilt : build (parts value) = value)
    (survive : fields.Survive fields.verbatim height (parts value)) :
    (fields.codec name build parts).Survives .exact (height + 1) value := by
  have names : fields.verbatim.map Prod.fst = fields.names := by
    rw [verbatim, List.map_map]
    exact List.map_id _
  rintro depth node room rfl
  refine codec_survives distinct names rebuilt survive room ?_
  rw [codec, Node.ofJson, Entries.ofJson_eq]
  refine .intro (fun name member known => ?_) (fun entry listed _ => ?_)
  · rw [lookup_verbatim known]
    exact Rendition.kept_nodesOf ((encode_names_sublist _).nodup distinct) name
  · exact textFault_of_mem_nodes listed

/-- An object that was written decodes to a record exactly when it may be entered and every field
reads its value. -/
theorem codec_decode_ofJson_eq_ok_iff (distinct : fields.names.Nodup) {depth : Nat} {τ : Type}
    {name : String} {build : α → τ} {parts : τ → α} {members : List (String × Json)} {value : τ} :
    (fields.codec name build parts).decode depth (.ofJson (.object members)) = .ok value ↔
      1 < depth ∧ ∃ values, fields.Reads (depth - 1) (nodes members) values ∧
        build values = value := by
  have formed : ∀ entry ∈ nodes members, entry.1 ∉ fields.names → entry.2.textFault = none :=
    fun _ listed _ => textFault_of_mem_nodes listed
  rw [Node.ofJson, Entries.ofJson_eq, codec_decode_object_eq_ok_iff distinct]
  simp only [and_iff_left formed]

end Fields

end OrgFederation.Json

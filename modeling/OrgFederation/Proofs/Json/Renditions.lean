import Mathlib.Data.List.Forall2
import OrgFederation.Proofs.Json.Objects
import OrgFederation.Proofs.Sequence

namespace OrgFederation.Json

mutual

/-- The node of a value. -/
def Node.ofJson : Json → Node
  | .null => .null
  | .bool value => .bool value
  | .number value => .number (.ok value)
  | .string value => .string (.ok value)
  | .array values => .array (Items.ofJson values)
  | .object members => .object (Entries.ofJson members)

def Items.ofJson : List Json → Items
  | [] => .closed
  | value :: rest => .item (Node.ofJson value) (Items.ofJson rest)

def Entries.ofJson : List (String × Json) → Entries
  | [] => .closed
  | (name, value) :: rest => .entry (.ok name) (Node.ofJson value) (Entries.ofJson rest)

end

/-- An array whose items are all there. -/
def Items.ofList : List Node → Items
  | [] => .closed
  | node :: rest => .item node (ofList rest)

/-- A rendition relates a written value to the nodes as which a reader may find it. -/
abbrev Rendition := Json → Node → Prop

namespace Rendition

/-- The value as it was written. -/
def exact : Rendition := fun value node => node = .ofJson value

/-- An array of as many items, each in its rendition. -/
inductive Each (item : Rendition) : Json → Node → Prop
  | intro {values : List Json} {nodes : List Node} (alike : List.Forall₂ item values nodes) :
      Each item (.array values) (.array (.ofList nodes))

/-- A member is there in its rendition when it was written, and only then. -/
inductive Kept (form : Rendition) : Option Json → List Node → Prop
  | absent : Kept form none []
  | held {value : Json} {node : Node} (alike : form value node) : Kept form (some value) [node]

/-- A member may besides be left out where it is an empty array. -/
inductive Elidable (form : Rendition) : Option Json → List Node → Prop
  | kept {written : Option Json} {nodes : List Node} (member : Kept form written nodes) :
      Elidable form written nodes
  | left : Elidable form (some (.array [])) []

/-- How the members of known names are rendered. -/
abbrev Known := List (String × (Option Json → List Node → Prop))

/-- An object with its members of known names in any order, each as it is rendered, among any other
entries that are well-formed. -/
inductive Extended (known : Known) : Json → Node → Prop
  | intro {members : List (String × Json)} {entries : List (String × Node)}
      (renders : ∀ name member, known.lookup name = some member →
        member (members.lookup name) (nodesOf name entries))
      (formed : ∀ entry ∈ entries, known.lookup entry.1 = none → entry.2.textFault = none) :
      Extended known (.object members) (.object (.ofList entries))

end Rendition

/-- A value survives a rendition when it is read back wherever more levels than its height are
left. -/
def Codec.Survives {α : Type} (codec : Codec α) (form : Rendition) (height : Nat) (value : α) :
    Prop :=
  ∀ ⦃depth : Nat⦄ ⦃node : Node⦄, height < depth → form (codec.encode value) node →
    codec.decode depth node = .ok value

/-- A codec that takes no null. -/
def Codec.RefusesNull {α : Type} (codec : Codec α) : Prop :=
  ∀ ⦃depth : Nat⦄ ⦃value : α⦄, codec.decode depth .null ≠ .ok value

namespace Codec

variable {α : Type} {codec : Codec α} {form : Rendition} {height : Nat}

/-- What survives in some room survives in more. -/
theorem Survives.mono {value : α} (survives : codec.Survives form height value) {more : Nat}
    (le : height ≤ more) : codec.Survives form more value :=
  fun _ _ room alike => survives (Nat.lt_of_le_of_lt le room) alike

theorem text_survives (value : String) : text.Survives .exact 0 value := by
  rintro depth node - rfl
  rfl

theorem flag_survives (value : Bool) : flag.Survives .exact 0 value := by
  rintro depth node - rfl
  rfl

theorem text_refusesNull : text.RefusesNull := by
  rintro depth value ⟨⟩

theorem flag_refusesNull : flag.RefusesNull := by
  rintro depth value ⟨⟩

theorem list_refusesNull : codec.list.RefusesNull := by
  rintro depth value ⟨⟩

/-- A value that is set survives as itself, for a null would not be taken for it. -/
theorem optional_survives (refuses : codec.RefusesNull) {value : α}
    (survives : codec.Survives form height value) :
    codec.optional.Survives form height (some value) := by
  intro depth node room alike
  have decodes := survives room alike
  cases node with
  | null => exact (refuses decodes).elim
  | _ => exact map_eq_ok_iff.mpr ⟨value, decodes, rfl⟩

/-- The items of an array survive when each of them does. -/
theorem decodeItems_survives {values : List α} {nodes : List Node} {depth : Nat}
    (survive : ∀ value ∈ values, codec.Survives form height value) (room : height < depth)
    (alike : List.Forall₂ form (values.map codec.encode) nodes) :
    codec.decodeItems depth (.ofList nodes) = .ok values := by
  induction values generalizing nodes with
  | nil =>
      cases alike
      rfl
  | cons value rest ih =>
      obtain ⟨here, others⟩ := List.forall_mem_cons.mp survive
      rw [List.map_cons, List.forall₂_cons_left_iff] at alike
      obtain ⟨node, nodes, headAlike, restAlike, rfl⟩ := alike
      rw [Items.ofList, decodeItems, here room headAlike]
      exact bind_eq_ok_iff.mpr ⟨value, rfl, bind_eq_ok_iff.mpr ⟨rest, ih others restAlike, rfl⟩⟩

/-- A list survives when its items do. -/
theorem list_survives {values : List α}
    (survive : ∀ value ∈ values, codec.Survives form height value) :
    codec.list.Survives (Rendition.Each form) (height + 1) values := by
  rintro depth node room ⟨alike⟩
  have deep : 1 < depth := by omega
  have inner : height < depth - 1 := by omega
  rw [list_decode_array, entering_of_lt deep]
  exact decodeItems_survives survive inner alike

end Codec

namespace Field

variable {α : Type} {codec : Codec α} {form : Rendition} {height : Nat} {name : String}

/-- What is written of the value of a field. -/
def written (field : Field α) (value : α) : Option Json :=
  if field.omitted value then none else some (field.codec.encode value)

/-- A field survives as a member when it reads its value from whatever the member has become. -/
def Survives (field : Field α) (member : Option Json → List Node → Prop) (height : Nat) (value : α) :
    Prop :=
  ∀ ⦃depth : Nat⦄ ⦃nodes : List Node⦄, height < depth → member (field.written value) nodes →
    field.Reads depth nodes value

/-- A value that is written survives in its field when it does alone. -/
theorem survives_of_written {field : Field α} {value : α} (told : field.omitted value = false)
    (survives : field.codec.Survives form height value) :
    field.Survives (Rendition.Kept form) height value := by
  intro depth nodes room member
  rw [written, told] at member
  cases member with
  | held alike => exact .held (survives room alike)

/-- A value that is left out survives in its field when absence stands for it. -/
theorem survives_of_omitted {field : Field α} {value : α} (silent : field.omitted value = true)
    (stands : field.absentEntry = some value) :
    field.Survives (Rendition.Kept form) height value := by
  intro depth nodes _ member
  rw [written, silent] at member
  cases member
  exact .absent stands

theorem required_survives {value : α} (survives : codec.Survives form height value) :
    (required name codec).Survives (Rendition.Kept form) height value :=
  survives_of_written rfl survives

theorem defaulted_survives {value fallback : α} (survives : codec.Survives form height value) :
    (defaulted name codec fallback).Survives (Rendition.Kept form) height value :=
  survives_of_written rfl survives

/-- A field that may be unset survives when its value does. -/
theorem optional_survives (refuses : codec.RefusesNull) {value : Option α}
    (survives : ∀ held ∈ value, codec.Survives form height held) :
    (optional name codec).Survives (Rendition.Kept form) height value := by
  cases value with
  | none => exact survives_of_omitted rfl rfl
  | some held => exact survives_of_written rfl (Codec.optional_survives refuses (survives held rfl))

/-- A list whose absence stands for no items survives when its items do. -/
theorem defaulted_list_survives {values : List α}
    (survive : ∀ value ∈ values, codec.Survives form height value) :
    (defaulted name codec.list []).Survives (Rendition.Elidable (Rendition.Each form)) (height + 1)
      values := by
  intro depth nodes room member
  generalize writes : (defaulted name codec.list []).written values = written at member
  cases member with
  | kept member => exact defaulted_survives (Codec.list_survives survive) room (writes ▸ member)
  | left =>
      have empty : values = [] := by simpa [written, defaulted, Codec.list] using writes
      exact .absent (congrArg some empty.symm)

theorem required_text_survives (value : String) :
    (required name .text).Survives (Rendition.Kept .exact) height value :=
  required_survives ((Codec.text_survives value).mono (Nat.zero_le _))

theorem defaulted_text_survives (value fallback : String) :
    (defaulted name .text fallback).Survives (Rendition.Kept .exact) height value :=
  defaulted_survives ((Codec.text_survives value).mono (Nat.zero_le _))

theorem optional_text_survives (value : Option String) :
    (optional name .text).Survives (Rendition.Kept .exact) height value :=
  optional_survives Codec.text_refusesNull fun held _ =>
    (Codec.text_survives held).mono (Nat.zero_le _)

theorem optional_flag_survives (value : Option Bool) :
    (optional name .flag).Survives (Rendition.Kept .exact) height value :=
  optional_survives Codec.flag_refusesNull fun held _ =>
    (Codec.flag_survives held).mono (Nat.zero_le _)

end Field

namespace Fields

/-- Every field survives as the member that is known by its name. -/
def Survive (known : Rendition.Known) (height : Nat) : {α : Type} → Fields α → α → Prop
  | _, .nil, _ => True
  | _, .cons head rest, values =>
      (∃ member, known.lookup head.name = some member ∧ head.Survives member height values.1) ∧
        rest.Survive known height values.2

variable {α : Type} {fields : Fields α}

/-- The first field leaves what is written under other names as it is. -/
theorem lookup_encode_other {β γ : Type} {head : Field β} {rest : Fields γ} {name : String}
    (different : name ≠ head.name) (values : β × γ) :
    ((Fields.cons head rest).encode values).lookup name = (rest.encode values.2).lookup name := by
  rw [encode]
  split
  · rfl
  · rw [List.lookup_cons, beq_false_of_ne different]

/-- Nothing is written under a name without field. -/
theorem lookup_encode_of_notMem {name : String} (unknown : name ∉ fields.names) (values : α) :
    (fields.encode values).lookup name = none := by
  induction fields with
  | nil => rfl
  | cons head rest ih =>
      obtain ⟨different, unknown⟩ := List.ne_and_not_mem_of_not_mem_cons unknown
      rw [lookup_encode_other different, ih unknown]

/-- What is written under the name of the first field. -/
theorem lookup_encode_self {β γ : Type} {head : Field β} {rest : Fields γ}
    (fresh : head.name ∉ rest.names) (values : β × γ) :
    ((Fields.cons head rest).encode values).lookup head.name = head.written values.1 := by
  rw [encode, Field.written]
  split
  · exact lookup_encode_of_notMem fresh values.2
  · exact List.lookup_cons_self

/-- Fields that survive read their values from whatever their members have become. -/
theorem reads_of_renders (distinct : fields.names.Nodup) {known : Rendition.Known}
    {height depth : Nat} (room : height < depth) {entries : List (String × Node)} {values : α}
    (survive : fields.Survive known height values)
    (renders : ∀ name ∈ fields.names, ∀ member, known.lookup name = some member →
      member ((fields.encode values).lookup name) (nodesOf name entries)) :
    fields.Reads depth entries values := by
  induction fields with
  | nil => trivial
  | cons head rest ih =>
      obtain ⟨⟨member, listed, survives⟩, others⟩ := survive
      obtain ⟨fresh, distinct⟩ := List.nodup_cons.mp distinct
      have here := renders head.name List.mem_cons_self member listed
      rw [lookup_encode_self fresh] at here
      refine ⟨survives room here, ih distinct others fun name among member listed => ?_⟩
      have different : name ≠ head.name := fun same => fresh (same ▸ among)
      rw [← lookup_encode_other different]
      exact renders name (List.mem_cons_of_mem _ among) member listed

/-- A record survives among further entries when its fields do. -/
theorem codec_survives (distinct : fields.names.Nodup) {known : Rendition.Known}
    (names : known.map Prod.fst = fields.names) {height : Nat} {τ : Type} {name : String}
    {build : α → τ} {parts : τ → α} {value : τ} (rebuilt : build (parts value) = value)
    (survive : fields.Survive known height (parts value)) :
    (fields.codec name build parts).Survives (Rendition.Extended known) (height + 1) value := by
  rintro depth node room (@⟨_, entries, renders, formed⟩)
  have inner : height < depth - 1 := by omega
  refine (codec_decode_object_eq_ok_iff distinct).mpr ⟨by omega, parts value, ⟨?_, ?_⟩, rebuilt⟩
  · exact reads_of_renders distinct inner survive fun name _ => renders name
  · intro entry listed unknown
    exact formed entry listed (lookup_eq_none_of_notMem (names ▸ unknown))

end Fields

end OrgFederation.Json

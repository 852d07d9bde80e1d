import OrgFederation.Proofs.Json.Rendered

namespace OrgFederation.Json

/-- A value is read back as it was written wherever more levels than its height are left, and all
the numbers that are written are integers. -/
structure Codec.ReadsBack {α : Type} (codec : Codec α) (height : Nat) (value : α) : Prop where
  survives : codec.Survives .exact height value
  integral : (codec.encode value).isIntegral

/-- A field is read back from what is written of its value. -/
structure Field.ReadsBack {α : Type} (field : Field α) (height : Nat) (value : α) : Prop where
  survives : field.Survives (Rendition.Kept .exact) height value
  integral : ∀ written ∈ field.written value, written.isIntegral

namespace Codec

variable {α : Type} {codec : Codec α} {height : Nat}

/-- The text of a value decodes to that value. -/
theorem ReadsBack.decode_render {value : α} (back : codec.ReadsBack height value)
    (room : height < startDepth) :
    (Document.ofText (codec.encode value).render).decode codec.decode = .ok value :=
  Document.decode_render back.integral (back.survives room rfl)

theorem ReadsBack.mono {value : α} (back : codec.ReadsBack height value) {more : Nat}
    (le : height ≤ more) : codec.ReadsBack more value :=
  ⟨back.survives.mono le, back.integral⟩

theorem text_readsBack (value : String) : text.ReadsBack height value :=
  ⟨(text_survives value).mono (Nat.zero_le _), rfl⟩

theorem flag_readsBack (value : Bool) : flag.ReadsBack height value :=
  ⟨(flag_survives value).mono (Nat.zero_le _), rfl⟩

/-- A signed integer of 64 bits is read back. -/
theorem int64_readsBack {value : Int} (notBelow : Word64.leastSigned ≤ value)
    (notAbove : value ≤ Word64.greatestSigned) : int64.ReadsBack height value := by
  have within : value ≤ Word64.greatest := by
    simp only [Word64.greatestSigned, Word64.greatest] at notAbove ⊢
    omega
  constructor
  · exact (integer_survives notBelow notAbove).mono (Nat.zero_le _)
  · show (decide (Word64.leastSigned ≤ value) && decide (value ≤ Word64.greatest)) = true
    rw [decide_eq_true notBelow, decide_eq_true within]
    rfl

/-- An unsigned integer of 64 bits is read back. -/
theorem word64_readsBack {value : Nat} (notAbove : value ≤ Word64.greatest) :
    word64.ReadsBack height value := by
  have within : (value : Int) ≤ Word64.greatest := Int.ofNat_le.mpr notAbove
  have notBelow : Word64.leastSigned ≤ (value : Int) := by
    simp only [Word64.leastSigned]
    omega
  constructor
  · intro depth node room alike
    have decodes : (integer 0 Word64.greatest "u64").decode depth node = .ok (value : Int) :=
      integer_survives (Int.natCast_nonneg value) within (Nat.zero_lt_of_lt room) alike
    exact map_eq_ok_iff.mpr ⟨_, decodes, Int.toNat_natCast value⟩
  · show (decide (Word64.leastSigned ≤ (value : Int)) && decide ((value : Int) ≤ Word64.greatest)) =
      true
    rw [decide_eq_true notBelow, decide_eq_true within]
    rfl

theorem word64_refusesNull : word64.RefusesNull := by
  rintro depth value ⟨⟩

/-- The numbers of all items are integers when those of each item are. -/
theorem areIntegral_iff {values : List Json} :
    areIntegral values ↔ ∀ value ∈ values, value.isIntegral := by
  induction values with
  | nil => simp [areIntegral]
  | cons value rest ih => rw [areIntegral, Bool.and_eq_true, ih, List.forall_mem_cons]

/-- A list is read back when its items are. -/
theorem list_readsBack {values : List α}
    (back : ∀ value ∈ values, codec.ReadsBack height value) :
    codec.list.ReadsBack (height + 1) values := by
  constructor
  · exact list_survives_exact fun value listed => (back value listed).survives
  · rw [list, isIntegral, areIntegral_iff]
    intro written listed
    obtain ⟨value, among, rfl⟩ := List.mem_map.mp listed
    exact (back value among).integral

end Codec

namespace Field

variable {α : Type} {codec : Codec α} {height : Nat} {name : String}

/-- A field that is written is read back when its value is. -/
theorem readsBack_of_written {field : Field α} {value : α} (told : field.omitted value = false)
    (back : field.codec.ReadsBack height value) : field.ReadsBack height value := by
  constructor
  · exact survives_of_written told back.survives
  · intro written among
    rw [Field.written, told] at among
    cases among
    exact back.integral

/-- A field that is left out is read back when absence stands for its value. -/
theorem readsBack_of_omitted {field : Field α} {value : α} (silent : field.omitted value = true)
    (stands : field.absentEntry = some value) : field.ReadsBack height value := by
  constructor
  · exact survives_of_omitted silent stands
  · intro written among
    rw [Field.written, silent] at among
    cases among

theorem required_readsBack {value : α} (back : codec.ReadsBack height value) :
    (required name codec).ReadsBack height value :=
  readsBack_of_written rfl back

theorem defaulted_readsBack {value fallback : α} (back : codec.ReadsBack height value) :
    (defaulted name codec fallback).ReadsBack height value :=
  readsBack_of_written rfl back

theorem elided_readsBack [BEq α] [LawfulBEq α] {value fallback : α}
    (back : codec.ReadsBack height value) :
    (elided name codec fallback).ReadsBack height value := by
  by_cases same : value = fallback
  · exact readsBack_of_omitted (by simp [elided, same]) (congrArg some same.symm)
  · exact readsBack_of_written (by simp [elided, same]) back

theorem elidedList_readsBack {values : List α}
    (back : ∀ value ∈ values, codec.ReadsBack height value) :
    (elidedList name codec).ReadsBack (height + 1) values := by
  cases values with
  | nil => exact readsBack_of_omitted rfl rfl
  | cons value rest => exact readsBack_of_written rfl (Codec.list_readsBack back)

/-- A field that may be unset is read back when its value is, for null is not taken for a value. -/
theorem optional_readsBack (refuses : codec.RefusesNull) {value : Option α}
    (back : ∀ held ∈ value, codec.ReadsBack height held) :
    (optional name codec).ReadsBack height value := by
  cases value with
  | none => exact readsBack_of_omitted rfl rfl
  | some held =>
      have alone := back held rfl
      apply readsBack_of_written rfl
      exact ⟨Codec.optional_survives refuses alone.survives, alone.integral⟩

theorem optional_text_readsBack (value : Option String) :
    (optional name .text).ReadsBack height value :=
  optional_readsBack Codec.text_refusesNull fun held _ => Codec.text_readsBack held

theorem optional_flag_readsBack (value : Option Bool) :
    (optional name .flag).ReadsBack height value :=
  optional_readsBack Codec.flag_refusesNull fun held _ => Codec.flag_readsBack held

end Field

namespace Fields

/-- Every field is read back. -/
def ReadBack (height : Nat) : {α : Type} → Fields α → α → Prop
  | _, .nil, _ => True
  | _, .cons head rest, values =>
      head.ReadsBack height values.1 ∧ rest.ReadBack height values.2

variable {α : Type} {fields : Fields α} {height : Nat}

/-- Fields that are read back survive as the members of their names. -/
theorem survive_of_readBack {known : Rendition.Known}
    (verbatim : ∀ name ∈ fields.names, known.lookup name = some (Rendition.Kept .exact))
    {values : α} (back : fields.ReadBack height values) : fields.Survive known height values := by
  induction fields with
  | nil => trivial
  | cons head rest ih =>
      obtain ⟨here, others⟩ := List.forall_mem_cons.mp verbatim
      exact ⟨⟨_, here, back.1.survives⟩, ih others back.2⟩

/-- Fields that are read back are written with integers for numbers. -/
theorem haveIntegral_of_readBack {values : α} (back : fields.ReadBack height values) :
    haveIntegral (fields.encode values) := by
  induction fields with
  | nil => rfl
  | cons head rest ih =>
      have here := back.1.integral
      rw [Field.written] at here
      rw [encode]
      split
      · exact ih back.2
      · next told =>
          rw [if_neg told] at here
          rw [haveIntegral, Bool.and_eq_true]
          exact ⟨here _ rfl, ih back.2⟩

/-- A field is known by its name as it was written. -/
theorem lookup_verbatim_of_mem {name : String} (known : name ∈ fields.names) :
    fields.verbatim.lookup name = some (Rendition.Kept .exact) := by
  cases found : fields.verbatim.lookup name with
  | none =>
      have listed : (name, Rendition.Kept Rendition.exact) ∈ fields.verbatim :=
        List.mem_map_of_mem known
      have absent := List.lookup_eq_none_iff.mp found _ listed
      simp at absent
  | some member => rw [lookup_verbatim found]

/-- A record is read back when its fields are. -/
theorem codec_readsBack (distinct : fields.names.Nodup) {τ : Type} {name : String} {build : α → τ}
    {parts : τ → α} {value : τ} (rebuilt : build (parts value) = value)
    (back : fields.ReadBack height (parts value)) :
    (fields.codec name build parts).ReadsBack (height + 1) value := by
  constructor
  · exact codec_survives_exact distinct rebuilt
      (survive_of_readBack (fun _ => lookup_verbatim_of_mem) back)
  · exact haveIntegral_of_readBack back

end Fields

end OrgFederation.Json

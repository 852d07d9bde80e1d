import OrgFederation.Json.Record

namespace OrgFederation.Json

/-- A step and what follows it give a value exactly when both do. -/
theorem bind_eq_ok_iff {ε α β : Type} {first : Except ε α} {next : α → Except ε β} {result : β} :
    (first >>= next) = .ok result ↔ ∃ value, first = .ok value ∧ next value = .ok result := by
  cases first with
  | error problem => simp [bind, Except.bind]
  | ok value => simp [bind, Except.bind]

theorem bind_eq_error_iff {ε α β : Type} {first : Except ε α} {next : α → Except ε β} {problem : ε} :
    (first >>= next) = .error problem ↔
      first = .error problem ∨ ∃ value, first = .ok value ∧ next value = .error problem := by
  cases first with
  | error cause => simp [bind, Except.bind]
  | ok value => simp [bind, Except.bind]

theorem map_eq_ok_iff {ε α β : Type} {first : Except ε α} {change : α → β} {result : β} :
    first.map change = .ok result ↔ ∃ value, first = .ok value ∧ change value = result := by
  cases first with
  | error problem => simp [Except.map]
  | ok value => simp [Except.map]

theorem mapError_ok {ε ε' α : Type} (change : ε → ε') (value : α) :
    (Except.ok value).mapError change = .ok value :=
  rfl

theorem mapError_error {ε ε' α : Type} (change : ε → ε') (problem : ε) :
    (Except.error problem : Except ε α).mapError change = .error (change problem) :=
  rfl

/-- What is seen of a value was given by the step. -/
theorem exists_ok_of_seen {ε α β : Type} {first : Except ε α} {view : α → β} {seen : β}
    (sees : first.toOption.map view = some seen) : ∃ value, first = .ok value ∧ view value = seen := by
  cases first with
  | error problem => cases sees
  | ok value => exact ⟨value, rfl, Option.some.inj sees⟩

/-- Inside an array or an object one level less is left. -/
theorem entering_of_lt {α : Type} {depth : Nat} (room : 1 < depth)
    (inside : Nat → Except DecodeError α) : entering depth inside = inside (depth - 1) :=
  if_neg (by omega)

/-- What decodes at all decodes inside. -/
theorem inside_of_entering {α : Type} {depth : Nat} {inside : Nat → Except DecodeError α} {value : α}
    (decodes : entering depth inside = .ok value) : inside (depth - 1) = .ok value := by
  rw [entering] at decodes
  split at decodes
  · cases decodes
  · exact decodes

/-- What decodes at all has room to be entered. -/
theorem room_of_entering {α : Type} {depth : Nat} {inside : Nat → Except DecodeError α} {value : α}
    (decodes : entering depth inside = .ok value) : 1 < depth := by
  rw [entering] at decodes
  split at decodes
  · cases decodes
  · omega

/-- Skipping a node only asks whether it is well-formed. -/
theorem Node.skip_eq_ok_iff {node : Node} : node.skip = .ok () ↔ node.textFault = none := by
  rw [skip]
  cases node.textFault <;> simp

/-- A document decodes exactly when its root does and nothing is behind it. -/
theorem Document.decode_eq_ok_iff {α : Type} {decoder : Nat → Node → Except DecodeError α}
    {document : Document} {value : α} :
    document.decode decoder = .ok value ↔
      decoder startDepth document.root = .ok value ∧ document.behind = none := by
  obtain ⟨root, behind⟩ := document
  rw [decode, bind_eq_ok_iff]
  cases behind with
  | some fault => simp [throw, throwThe, MonadExceptOf.throw]
  | none => simp [pure, Except.pure]

theorem Codec.list_decode_array {α : Type} (codec : Codec α) (depth : Nat) (items : Items) :
    codec.list.decode depth (.array items) =
      entering depth fun depth => codec.decodeItems depth items :=
  rfl

theorem Fields.codec_decode_object {α τ : Type} (fields : Fields α) (name : String) (build : α → τ)
    (parts : τ → α) (depth : Nat) (entries : Entries) :
    (fields.codec name build parts).decode depth (.object entries) =
      entering depth fun depth => (fields.decodeEntries depth entries fields.blank).map build :=
  rfl

/-- An object whose entries all have names. -/
def Entries.ofList : List (String × Node) → Entries
  | [] => .closed
  | (name, node) :: rest => .entry (.ok name) node (ofList rest)

/-- The nodes that entries hold under a name. -/
def nodesOf (name : String) (entries : List (String × Node)) : List Node :=
  (entries.filter fun entry => entry.1 = name).map Prod.snd

@[simp] theorem nodesOf_nil (name : String) : nodesOf name [] = [] := rfl

@[simp] theorem nodesOf_cons_self (name : String) (node : Node) (rest : List (String × Node)) :
    nodesOf name ((name, node) :: rest) = node :: nodesOf name rest := by
  simp [nodesOf]

theorem nodesOf_cons_other {name other : String} (different : other ≠ name) (node : Node)
    (rest : List (String × Node)) :
    nodesOf name ((other, node) :: rest) = nodesOf name rest := by
  simp [nodesOf, different]

/-- A field reads its value from the only node of its name; without one it may have a value for its
absence. -/
inductive Field.Reads {α : Type} (field : Field α) (depth : Nat) : List Node → α → Prop
  | held {node : Node} {value : α} (decodes : field.codec.decode depth node = .ok value) :
      field.Reads depth [node] value
  | absent {value : α} (stands : field.absentEntry = some value) : field.Reads depth [] value

namespace Field

variable {α : Type} {field : Field α} {depth : Nat}

theorem reads_nil_iff {value : α} : field.Reads depth [] value ↔ field.absentEntry = some value :=
  ⟨fun reads => by cases reads; assumption, .absent⟩

/-- A field that meets a node takes it and meets no other. -/
theorem reads_cons_iff {node : Node} {rest : List Node} {value : α} :
    field.Reads depth (node :: rest) value ↔
      field.codec.decode depth node = .ok value ∧ rest = [] := by
  constructor
  · rintro (decodes | _)
    exact ⟨decodes, rfl⟩
  · rintro ⟨decodes, rfl⟩
    exact .held decodes

end Field

namespace Fields

/-- The names of the fields in order of declaration. -/
def names : {α : Type} → Fields α → List String
  | _, .nil => []
  | _, .cons head rest => head.name :: rest.names

/-- Every field reads its value from the nodes of its name. -/
def Reads (depth : Nat) (entries : List (String × Node)) : {α : Type} → Fields α → α → Prop
  | _, .nil, _ => True
  | _, .cons head rest, values =>
      head.Reads depth (nodesOf head.name entries) values.1 ∧ rest.Reads depth entries values.2

/-- A draft becomes a tuple of values through entries that are still to come: a field that is filled
meets no further node. -/
def Completes (depth : Nat) (entries : List (String × Node)) :
    {α : Type} → (fields : Fields α) → fields.Draft → α → Prop
  | _, .nil, _, _ => True
  | _, .cons head rest, draft, values =>
      (match draft.1 with
        | some held => nodesOf head.name entries = [] ∧ held = values.1
        | none => head.Reads depth (nodesOf head.name entries) values.1) ∧
      rest.Completes depth entries draft.2 values.2

variable {depth : Nat} {entries : List (String × Node)}

/-- A blank draft becomes what the fields read. -/
theorem completes_blank_iff {α : Type} {fields : Fields α} {values : α} :
    fields.Completes depth entries fields.blank values ↔ fields.Reads depth entries values := by
  induction fields with
  | nil => exact Iff.rfl
  | cons head rest ih => exact and_congr Iff.rfl ih

/-- Once no entry is left, a draft becomes its values and those for absence. -/
theorem finish_eq_ok_iff {α : Type} {fields : Fields α} {draft : fields.Draft} {values : α} :
    fields.finish draft = .ok values ↔ fields.Completes depth [] draft values := by
  induction fields with
  | nil => exact ⟨fun _ => trivial, fun _ => rfl⟩
  | cons head rest ih =>
      obtain ⟨filled, others⟩ := draft
      obtain ⟨value, further⟩ := values
      simp only [finish, Completes, nodesOf_nil, Field.reads_nil_iff, ← ih]
      have further_iff (value' : _) :
          (rest.finish others).map (Prod.mk value') = .ok (value, further) ↔
            value' = value ∧ rest.finish others = .ok further := by
        simp only [map_eq_ok_iff, Prod.mk.injEq]
        constructor
        · rintro ⟨found, finishes, same, rfl⟩
          exact ⟨same, finishes⟩
        · rintro ⟨same, finishes⟩
          exact ⟨further, finishes, same, rfl⟩
      cases filled with
      | some held => simpa using further_iff held
      | none =>
          cases head.absentEntry with
          | none => simp
          | some standing => simpa using further_iff standing

/-- An entry of a name without field leaves what a draft becomes as it is. -/
theorem completes_cons_of_notMem {α : Type} {fields : Fields α} {name : String} {node : Node}
    (unknown : name ∉ fields.names) {draft : fields.Draft} {values : α} :
    fields.Completes depth ((name, node) :: entries) draft values ↔
      fields.Completes depth entries draft values := by
  induction fields with
  | nil => exact Iff.rfl
  | cons head rest ih =>
      obtain ⟨different, further⟩ := List.ne_and_not_mem_of_not_mem_cons unknown
      simp only [Completes, nodesOf_cons_other different, ih further]

/-- There is no place for an entry exactly when no field has its name. -/
theorem store_eq_none_iff {α : Type} {fields : Fields α} {name : String} {node : Node}
    {draft : fields.Draft} :
    fields.store depth name node draft = none ↔ name ∉ fields.names := by
  induction fields with
  | nil => simp [store, names]
  | cons head rest ih =>
      by_cases same : name = head.name
      · simp [store, names, same]
      · simp [store, names, same, ih]

/-- Storing an entry takes the draft one entry further towards its values. -/
theorem completes_cons_of_store {α : Type} {fields : Fields α} (distinct : fields.names.Nodup)
    {name : String} {node : Node} {draft : fields.Draft} {stored : Except DecodeError fields.Draft}
    (place : fields.store depth name node draft = some stored) {values : α} :
    fields.Completes depth ((name, node) :: entries) draft values ↔
      ∃ next, stored = .ok next ∧ fields.Completes depth entries next values := by
  induction fields with
  | nil => cases place
  | cons head rest ih =>
      obtain ⟨filled, others⟩ := draft
      obtain ⟨fresh, distinct⟩ := List.nodup_cons.mp distinct
      by_cases same : name = head.name
      · subst same
        -- The fields behind have other names, so the entry changes nothing for them.
        simp only [store, if_true, Option.some.injEq] at place
        subst place
        simp only [Completes, nodesOf_cons_self, completes_cons_of_notMem fresh]
        cases filled with
        | some held => simp
        | none =>
            rw [Field.reads_cons_iff]
            constructor
            · rintro ⟨⟨decodes, only⟩, further⟩
              exact ⟨(some values.1, others), map_eq_ok_iff.mpr ⟨_, decodes, rfl⟩, ⟨only, rfl⟩,
                further⟩
            · rintro ⟨next, stores, here, further⟩
              obtain ⟨value, decodes, rfl⟩ := map_eq_ok_iff.mp stores
              obtain ⟨only, rfl⟩ := here
              exact ⟨⟨decodes, only⟩, further⟩
      · simp only [store, if_neg same, Option.map_eq_some_iff] at place
        obtain ⟨inner, place, rfl⟩ := place
        simp only [Completes, nodesOf_cons_other same, ih distinct place]
        constructor
        · rintro ⟨here, next, stores, further⟩
          exact ⟨(filled, next), map_eq_ok_iff.mpr ⟨next, stores, rfl⟩, here, further⟩
        · rintro ⟨_, stores, here, further⟩
          obtain ⟨next, taken, rfl⟩ := map_eq_ok_iff.mp stores
          exact ⟨here, next, taken, further⟩

/-- An entry with a field is stored before the entries behind it are taken. -/
theorem decodeEntries_of_store {α : Type} {fields : Fields α} {name : String} {node : Node}
    {rest : Entries} {draft : fields.Draft} {stored : Except DecodeError fields.Draft}
    (place : fields.store depth name node draft = some stored) :
    fields.decodeEntries depth (.entry (.ok name) node rest) draft =
      stored >>= fields.decodeEntries depth rest := by
  simp only [decodeEntries, mapError_ok, bind, Except.bind, place]

/-- An entry without field is skipped. -/
theorem decodeEntries_of_notMem {α : Type} {fields : Fields α} {name : String} {node : Node}
    {rest : Entries} {draft : fields.Draft} (unknown : name ∉ fields.names) :
    fields.decodeEntries depth (.entry (.ok name) node rest) draft =
      node.skip >>= fun _ => fields.decodeEntries depth rest draft := by
  simp only [decodeEntries, mapError_ok, bind, Except.bind, store_eq_none_iff.mpr unknown]

/-- A draft decodes on to a tuple of values exactly when it becomes that tuple and the entries
without field are well-formed. -/
theorem decodeEntries_draft_eq_ok_iff {α : Type} {fields : Fields α}
    (distinct : fields.names.Nodup) {draft : fields.Draft} {values : α} :
    fields.decodeEntries depth (.ofList entries) draft = .ok values ↔
      fields.Completes depth entries draft values ∧
        ∀ entry ∈ entries, entry.1 ∉ fields.names → entry.2.textFault = none := by
  induction entries generalizing draft with
  | nil => simpa [Entries.ofList, decodeEntries] using finish_eq_ok_iff
  | cons entry rest ih =>
      obtain ⟨name, node⟩ := entry
      rw [Entries.ofList, List.forall_mem_cons]
      by_cases known : name ∈ fields.names
      · obtain ⟨stored, place⟩ : ∃ stored, fields.store depth name node draft = some stored :=
          Option.ne_none_iff_exists'.mp fun unplaced => store_eq_none_iff.mp unplaced known
        simp only [decodeEntries_of_store place, bind_eq_ok_iff, ih,
          completes_cons_of_store distinct place, known, not_true_eq_false, false_implies, true_and]
        constructor
        · rintro ⟨next, stored, completes, formed⟩
          exact ⟨⟨next, stored, completes⟩, formed⟩
        · rintro ⟨⟨next, stored, completes⟩, formed⟩
          exact ⟨next, stored, completes, formed⟩
      · simp only [decodeEntries_of_notMem known, bind_eq_ok_iff, ih,
          completes_cons_of_notMem known, known, not_false_eq_true, true_implies,
          ← node.skip_eq_ok_iff]
        constructor
        · rintro ⟨⟨⟩, wellFormed, completes, formed⟩
          exact ⟨completes, wellFormed, formed⟩
        · rintro ⟨completes, wellFormed, formed⟩
          exact ⟨(), wellFormed, completes, formed⟩

/-- The entries of an object decode to a tuple of values exactly when every field reads its value
and the entries without field are well-formed. -/
theorem decodeEntries_eq_ok_iff {α : Type} {fields : Fields α} (distinct : fields.names.Nodup)
    {values : α} :
    fields.decodeEntries depth (.ofList entries) fields.blank = .ok values ↔
      fields.Reads depth entries values ∧
        ∀ entry ∈ entries, entry.1 ∉ fields.names → entry.2.textFault = none := by
  rw [decodeEntries_draft_eq_ok_iff distinct, completes_blank_iff]

/-- An object decodes to a record exactly when it may be entered, every field reads its value and the
entries without field are well-formed. -/
theorem codec_decode_object_eq_ok_iff {α τ : Type} {fields : Fields α} (distinct : fields.names.Nodup)
    {name : String} {build : α → τ} {parts : τ → α} {value : τ} :
    (fields.codec name build parts).decode depth (.object (.ofList entries)) = .ok value ↔
      1 < depth ∧ ∃ values, (fields.Reads (depth - 1) entries values ∧
        ∀ entry ∈ entries, entry.1 ∉ fields.names → entry.2.textFault = none) ∧
          build values = value := by
  rw [codec_decode_object]
  by_cases room : 1 < depth
  · simp only [entering_of_lt room, map_eq_ok_iff, decodeEntries_eq_ok_iff distinct, room, true_and]
  · rw [entering, if_pos (Nat.le_of_not_lt room)]
    simp [room]

end Fields

end OrgFederation.Json

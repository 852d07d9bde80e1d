import OrgFederation.Proofs.Json.Members
import OrgFederation.Proofs.Json.RoundTrip

namespace OrgFederation.Json

/-- A value that is written decodes as itself. -/
def Rereads (depth : Nat) (value : Json) : Prop :=
  (Node.ofJson value).decodeValue depth = .ok value

variable {depth : Nat}

namespace Entries

/-- The value of an entry is inserted before the entries behind it are decoded. -/
theorem decodeMembers_entry (depth : Nat) (name : String) (node : Node) (rest : Entries)
    (members : Members) :
    (Entries.entry (.ok name) node rest).decodeMembers depth members =
      node.decodeValue depth >>= fun value =>
        rest.decodeMembers depth (members.insert name value) := by
  rw [decodeMembers, mapError_ok]
  rfl

/-- Members in order are read back behind others that come before them. -/
theorem decodeMembers_ofJson {before members : Members}
    (sorted : Members.Sorted (before ++ members))
    (reread : ∀ member ∈ members, Rereads depth member.2) :
    (Entries.ofJson members).decodeMembers depth before = .ok (before ++ members) := by
  induction members generalizing before with
  | nil =>
      rw [List.append_nil]
      rfl
  | cons member rest ih =>
      obtain ⟨name, value⟩ := member
      obtain ⟨here, others⟩ := List.forall_mem_cons.mp reread
      have least : ∀ member ∈ before, member.1 < name := fun member listed =>
        (List.pairwise_append.mp sorted).2.2 member listed (name, value) List.mem_cons_self
      have divided : before ++ (name, value) :: rest = before ++ [(name, value)] ++ rest := by simp
      rw [divided] at sorted ⊢
      rw [Entries.ofJson, decodeMembers_entry]
      apply bind_eq_ok_iff.mpr
      refine ⟨value, here, ?_⟩
      rw [Members.insert_last least]
      exact ih sorted others

/-- Members that are read back one by one are decoded together. -/
theorem exists_decodeMembers_ofJson {members : List (String × Json)}
    (reread : ∀ member ∈ members, Rereads depth member.2) (before : Members) :
    ∃ later, (Entries.ofJson members).decodeMembers depth before = .ok later := by
  induction members generalizing before with
  | nil => exact ⟨before, rfl⟩
  | cons member rest ih =>
      obtain ⟨name, value⟩ := member
      obtain ⟨here, others⟩ := List.forall_mem_cons.mp reread
      obtain ⟨later, decodes⟩ := ih others (before.insert name value)
      rw [Entries.ofJson, decodeMembers_entry]
      exact ⟨later, bind_eq_ok_iff.mpr ⟨value, here, decodes⟩⟩

/-- What is found under a name is the value of the last entry of that name, or what was there
before. -/
theorem lookup_decodeMembers {listed : List (String × Node)} {before later : Members}
    (decodes : (Entries.ofList listed).decodeMembers depth before = .ok later) (name : String) :
    later.lookup name = (nodesOf name listed).getLast?.elim (before.lookup name) fun node =>
      (node.decodeValue depth).toOption := by
  induction listed generalizing before with
  | nil =>
      cases decodes
      rfl
  | cons entry rest ih =>
      obtain ⟨other, node⟩ := entry
      rw [ofList, decodeMembers_entry] at decodes
      obtain ⟨value, here, further⟩ := bind_eq_ok_iff.mp decodes
      rw [ih further, Members.lookup_insert]
      by_cases same : name = other
      · subst same
        rw [if_pos rfl, nodesOf_cons_self, List.getLast?_cons]
        cases (nodesOf name rest).getLast? with
        | none => exact (congrArg Except.toOption here).symm
        | some last => rfl
      · rw [if_neg same, nodesOf_cons_other (Ne.symm same)]

/-- Members that are read from a list of their own names are found in it. -/
theorem lookup_decodeMembers_ofJson {members : List (String × Json)}
    (distinct : (members.map Prod.fst).Nodup)
    (reread : ∀ member ∈ members, Rereads depth member.2) {later : Members}
    (decodes : (Entries.ofJson members).decodeMembers depth [] = .ok later) (name : String) :
    later.lookup name = members.lookup name := by
  rw [Entries.ofJson_eq] at decodes
  rw [lookup_decodeMembers decodes name]
  have kept := Rendition.kept_nodesOf distinct name
  generalize nodesOf name (nodes members) = found at kept
  cases held : members.lookup name with
  | none =>
      rw [held] at kept
      cases kept
      rfl
  | some value =>
      rw [held] at kept
      cases kept with
      | held alike =>
          obtain ⟨before, behind, rfl, -⟩ := List.lookup_eq_some_iff.mp held
          have rereads : Rereads depth value := reread (name, value) (by simp)
          cases alike
          exact congrArg Except.toOption rereads

end Entries

mutual

/-- A value that was decoded decodes as itself once it is written. -/
theorem Node.rereads {depth : Nat} : (node : Node) → {value : Json} →
    node.decodeValue depth = .ok value → Rereads depth value
  | .null, _, decodes => by
      cases decodes
      rfl
  | .bool _, _, decodes => by
      cases decodes
      rfl
  | .number (.ok _), _, decodes => by
      cases decodes
      rfl
  | .string (.ok _), _, decodes => by
      cases decodes
      rfl
  | .number (.error _), _, decodes => by cases decodes
  | .string (.error _), _, decodes => by cases decodes
  | .broken _, _, decodes => by cases decodes
  | .array items, value, decodes => by
      rw [Node.decodeValue] at decodes
      obtain ⟨values, inside, rfl⟩ := map_eq_ok_iff.mp (inside_of_entering decodes)
      have again := Items.rereads items inside
      rw [Rereads, Node.ofJson, Node.decodeValue, entering_of_lt (room_of_entering decodes), again]
      rfl
  | .object entries, value, decodes => by
      rw [Node.decodeValue] at decodes
      obtain ⟨members, inside, rfl⟩ := map_eq_ok_iff.mp (inside_of_entering decodes)
      obtain ⟨sorted, reread⟩ :=
        Entries.rereads entries inside List.Pairwise.nil nofun
      have again : (Entries.ofJson members).decodeMembers (depth - 1) [] = .ok members :=
        Entries.decodeMembers_ofJson sorted reread
      rw [Rereads, Node.ofJson, Node.decodeValue, entering_of_lt (room_of_entering decodes), again]
      rfl

theorem Items.rereads {depth : Nat} : (items : Items) → {values : List Json} →
    items.decodeValues depth = .ok values →
    (Items.ofJson values).decodeValues depth = .ok values
  | .closed, _, decodes => by
      cases decodes
      rfl
  | .broken _, _, decodes => by cases decodes
  | .item head rest, values, decodes => by
      rw [Items.decodeValues] at decodes
      obtain ⟨value, here, decodes⟩ := bind_eq_ok_iff.mp decodes
      obtain ⟨others, further, same⟩ := bind_eq_ok_iff.mp decodes
      cases same
      exact bind_eq_ok_iff.mpr ⟨value, Node.rereads head here,
        bind_eq_ok_iff.mpr ⟨others, Items.rereads rest further, rfl⟩⟩

/-- Decoded members are in order, and each of them decodes as itself. -/
theorem Entries.rereads {depth : Nat} : (entries : Entries) → {members later : Members} →
    entries.decodeMembers depth members = .ok later → members.Sorted →
    (∀ member ∈ members, Rereads depth member.2) →
    later.Sorted ∧ ∀ member ∈ later, Rereads depth member.2
  | .closed, _, _, decodes, sorted, reread => by
      cases decodes
      exact ⟨sorted, reread⟩
  | .broken _, _, _, decodes, _, _ => by cases decodes
  | .entry (.error _) _ _, _, _, decodes, _, _ => by cases decodes
  | .entry (.ok name) node rest, members, later, decodes, sorted, reread => by
      rw [Entries.decodeMembers_entry] at decodes
      obtain ⟨value, here, further⟩ := bind_eq_ok_iff.mp decodes
      have inserted : ∀ member ∈ members.insert name value, Rereads depth member.2 := by
        intro member listed
        rcases Members.mem_insert listed with rfl | before
        · exact Node.rereads node here
        · exact reread member before
      exact Entries.rereads rest further sorted.insert inserted

end

/-- The members of an object are in order, and each of them decodes as itself. -/
theorem Entries.decoded {depth : Nat} {entries : Entries} {members : Members}
    (decodes : entries.decodeMembers depth [] = .ok members) :
    members.Sorted ∧ ∀ member ∈ members, Rereads depth member.2 :=
  Entries.rereads entries decodes List.Pairwise.nil nofun

end OrgFederation.Json

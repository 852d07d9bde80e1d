import OrgFederation.Json.Basic
import OrgFederation.Proofs.Sequence

namespace OrgFederation.Members

/-- The names of members increase strictly. -/
def Sorted (members : Members) : Prop :=
  members.Pairwise fun first second => first.1 < second.1

variable {members : Members} {name : String} {value : Json}

/-- What is found among members is found in the first one or behind it. -/
theorem lookup_cons (other key : String) (held : Json) (rest : Members) :
    List.lookup other ((key, held) :: rest) =
      if other = key then some held else rest.lookup other := by
  rw [List.lookup_cons]
  by_cases same : other = key
  · simp [same]
  · simp [same, beq_false_of_ne same]

/-- A member that may be absent is found under its name alone. -/
theorem lookup_toList (name other : String) (value : Option Json) :
    (value.map (Prod.mk name)).toList.lookup other = if other = name then value else none := by
  cases value with
  | none => simp
  | some held => exact lookup_cons other name held []

/-- Inserting a member changes what is found under its name alone. -/
theorem lookup_insert (name other : String) (value : Json) (members : Members) :
    (members.insert name value).lookup other =
      if other = name then some value else members.lookup other := by
  induction members with
  | nil => exact lookup_cons other name value []
  | cons member rest ih =>
      obtain ⟨key, held⟩ := member
      rw [insert]
      split
      · exact lookup_cons other name value _
      · split
        · next same =>
            subst same
            rw [lookup_cons, lookup_cons]
            split <;> rfl
        · next different =>
            rw [lookup_cons, lookup_cons, ih]
            by_cases same : other = key
            · rw [if_pos same, if_pos same, if_neg fun named => different (named.symm.trans same)]
            · rw [if_neg same, if_neg same]

/-- A member that is inserted is there, and all others were there before. -/
theorem mem_insert {member : String × Json} (listed : member ∈ members.insert name value) :
    member = (name, value) ∨ member ∈ members := by
  induction members with
  | nil => exact .inl (List.mem_singleton.mp listed)
  | cons first rest ih =>
      obtain ⟨key, held⟩ := first
      rw [insert] at listed
      split at listed
      · exact List.mem_cons.mp listed
      · split at listed
        · rcases List.mem_cons.mp listed with here | later
          · exact .inl here
          · exact .inr (List.mem_cons_of_mem _ later)
        · rcases List.mem_cons.mp listed with here | later
          · exact .inr (here ▸ List.mem_cons_self)
          · exact (ih later).imp_right (List.mem_cons_of_mem _)

theorem Sorted.insert (sorted : members.Sorted) : (members.insert name value).Sorted := by
  induction members with
  | nil => exact List.pairwise_singleton _ _
  | cons first rest ih =>
      obtain ⟨key, held⟩ := first
      obtain ⟨least, further⟩ := List.pairwise_cons.mp sorted
      rw [Members.insert]
      split
      · next before =>
          have first : ∀ member ∈ (key, held) :: rest, name < member.1 := by
            intro member listed
            rcases List.mem_cons.mp listed with rfl | later
            · exact before
            · exact String.lt_trans before (least member later)
          exact List.pairwise_cons.mpr ⟨first, sorted⟩
      · next notBefore =>
          split
          · next same =>
              subst same
              exact List.pairwise_cons.mpr ⟨least, further⟩
          · next different =>
              have behind : key < name := Std.lt_of_le_of_ne notBefore (Ne.symm different)
              have least : ∀ member ∈ Members.insert name value rest, key < member.1 := by
                intro member listed
                rcases mem_insert listed with rfl | before
                · exact behind
                · exact least member before
              exact List.pairwise_cons.mpr ⟨least, ih further⟩

/-- A member that comes after all others is inserted last. -/
theorem insert_last (least : ∀ member ∈ members, member.1 < name) :
    members.insert name value = members ++ [(name, value)] := by
  induction members with
  | nil => rfl
  | cons first rest ih =>
      obtain ⟨key, held⟩ := first
      obtain ⟨before, others⟩ := List.forall_mem_cons.mp least
      have notBefore : ¬ name < key := String.lt_asymm before
      have different : name ≠ key := (Std.ne_of_lt before).symm
      rw [insert, if_neg notBefore, if_neg different, ih others]
      rfl

namespace Sorted

/-- Members in order all have names of their own. -/
theorem nodup (sorted : members.Sorted) : (members.map Prod.fst).Nodup := by
  rw [List.nodup_iff_pairwise_ne, List.pairwise_map]
  exact sorted.imp fun before => Std.ne_of_lt before

theorem filter (sorted : members.Sorted) (keeps : String × Json → Bool) :
    Sorted (members.filter keeps) :=
  List.Pairwise.filter keeps sorted

/-- Every member is found under its name. -/
theorem lookup_of_mem (sorted : members.Sorted) (listed : (name, value) ∈ members) :
    members.lookup name = some value := by
  induction members with
  | nil => cases listed
  | cons first rest ih =>
      obtain ⟨key, held⟩ := first
      obtain ⟨least, further⟩ := List.pairwise_cons.mp sorted
      rw [lookup_cons]
      rcases List.mem_cons.mp listed with here | later
      · cases here
        exact if_pos rfl
      · rw [if_neg (Std.ne_of_lt (least _ later)).symm, ih further later]

/-- A member is what is found under its name. -/
theorem mem_iff (sorted : members.Sorted) :
    (name, value) ∈ members ↔ members.lookup name = some value := by
  constructor
  · exact sorted.lookup_of_mem
  · intro found
    obtain ⟨before, behind, rfl, -⟩ := List.lookup_eq_some_iff.mp found
    exact List.mem_append_right _ List.mem_cons_self

/-- Members in order are the same when the same is found in them. -/
theorem ext {others : Members} (sorted : members.Sorted) (ordered : others.Sorted)
    (same : ∀ name, members.lookup name = others.lookup name) : members = others := by
  have listed : ∀ member, member ∈ members ↔ member ∈ others := by
    intro member
    rw [sorted.mem_iff, ordered.mem_iff, same]
  have distinct {list : Members} (sorted : list.Sorted) : list.Nodup :=
    sorted.imp fun before same => Std.ne_of_lt before (congrArg Prod.fst same)
  have perm : members.Perm others :=
    (List.perm_ext_iff_of_nodup (distinct sorted) (distinct ordered)).mpr listed
  exact perm.eq_of_pairwise (fun _ _ _ _ before behind => absurd behind (String.lt_asymm before))
    sorted ordered

/-- What is kept of members in order is found as before, if it is kept. -/
theorem lookup_filter (sorted : members.Sorted) (keeps : String × Json → Bool) :
    (members.filter keeps).lookup name =
      (members.lookup name).filter fun value => keeps (name, value) := by
  apply Option.ext
  intro value
  rw [← (sorted.filter keeps).mem_iff, List.mem_filter, sorted.mem_iff, Option.filter_eq_some_iff]

end Sorted

end OrgFederation.Members

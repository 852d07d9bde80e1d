import OrgFederation.Proofs.Json.RoundTrip
import OrgFederation.Proofs.Sequence

namespace OrgFederation.Json

/-- The members of an object; any other value has none. -/
def members : Json → List (String × Json)
  | .object members => members
  | _ => []

def isNull : Json → Bool
  | .null => true
  | _ => false

/-- The members of all names but one. -/
def without (name : String) (members : List (String × Json)) : List (String × Json) :=
  members.filter fun member => member.1 != name

mutual

/-- The value that a merge patch makes of another one. -/
def mergePatch (held : Json) : Json → Json
  | .object patch => .object (mergeMembers held.members patch)
  | value => value

/-- Each member of a patch takes the place of the one of its name, which comes last from then on. -/
def mergeMembers (members : List (String × Json)) : List (String × Json) → List (String × Json)
  | [] => members
  | (name, value) :: rest =>
      let merged := mergePatch ((members.lookup name).getD .null) value
      mergeMembers (without name members ++ if value.isNull then [] else [(name, merged)]) rest

end

theorem nodes_append (members others : List (String × Json)) :
    nodes (members ++ others) = nodes members ++ nodes others :=
  List.map_append

theorem nodesOf_append (name : String) (entries others : List (String × Node)) :
    nodesOf name (entries ++ others) = nodesOf name entries ++ nodesOf name others := by
  simp [nodesOf]

/-- Without a name, nothing is held under it and everything else is as before. -/
theorem nodesOf_without (name other : String) (members : List (String × Json)) :
    nodesOf name (nodes (without other members)) =
      if name = other then [] else nodesOf name (nodes members) := by
  induction members with
  | nil => simp [without, nodes]
  | cons member rest ih =>
      obtain ⟨held, value⟩ := member
      by_cases removed : held = other
      · rw [without, List.filter_cons_of_neg (by simp [removed]), ← without, ih, nodes_cons]
        split
        · rfl
        · next different =>
            rw [nodesOf_cons_other fun same => different (same.symm.trans removed)]
      · rw [without, List.filter_cons_of_pos (by simp [removed]), ← without, nodes_cons, nodes_cons]
        by_cases same : held = name
        · subst same
          rw [if_neg removed, nodesOf_cons_self, nodesOf_cons_self, ih, if_neg removed]
        · rw [nodesOf_cons_other same, nodesOf_cons_other same, ih]

/-- A merged object holds what the patch makes of the member that it names, and what was held before
under any other name. -/
theorem nodesOf_mergeMembers {patch : List (String × Json)} (distinct : (patch.map Prod.fst).Nodup)
    (filled : ∀ member ∈ patch, member.2.isNull = false) (members : List (String × Json))
    (name : String) :
    nodesOf name (nodes (mergeMembers members patch)) =
      match patch.lookup name with
      | some value => [.ofJson (mergePatch ((members.lookup name).getD .null) value)]
      | none => nodesOf name (nodes members) := by
  induction patch generalizing members with
  | nil => rfl
  | cons member rest ih =>
      obtain ⟨other, value⟩ := member
      obtain ⟨fresh, distinct⟩ := List.nodup_cons.mp distinct
      obtain ⟨here, others⟩ := List.forall_mem_cons.mp filled
      simp only at here
      rw [mergeMembers, ih distinct others, List.lookup_cons, here]
      simp only [Bool.false_eq_true, if_false, nodes_append, nodesOf_append, nodesOf_without]
      by_cases same : name = other
      · subst same
        rw [lookup_eq_none_of_notMem fresh, beq_self_eq_true, if_pos rfl]
        exact nodesOf_cons_self _ _ _
      · have apart : nodesOf name (nodes
            [(other, mergePatch ((members.lookup other).getD .null) value)]) = [] :=
          nodesOf_cons_other (Ne.symm same) _ _
        have kept : (without other members ++
            [(other, mergePatch ((members.lookup other).getD .null) value)]).lookup name =
              members.lookup name := by
          rw [List.lookup_append, without, lookup_filter_ne same, List.lookup_cons,
            beq_false_of_ne same]
          exact Option.or_none
        rw [beq_false_of_ne same, if_neg same, apart, List.append_nil, kept]

end OrgFederation.Json

namespace OrgFederation

variable {ε α β : Type}

/-- An element of two lists in a row stands in the first one, or behind all of it in the second. -/
theorem divided_append {first second earlier rest : List α} {item : α}
    (divided : first ++ second = earlier ++ item :: rest) :
    (∃ behind, first = earlier ++ item :: behind) ∨
      ∃ between, earlier = first ++ between ∧ second = between ++ item :: rest := by
  rcases List.append_eq_append_iff.mp divided with
    ⟨between, before, after⟩ | ⟨between, before, after⟩
  · exact .inr ⟨between, before, after⟩
  · cases between with
    | nil => exact .inr ⟨[], by simpa using before.symm, after.symm⟩
    | cons other between =>
        obtain ⟨rfl, _⟩ := List.cons.inj after
        exact .inl ⟨between, before⟩

/-- A list without its later repetitions has none. -/
theorem nodup_eraseDups [BEq α] [LawfulBEq α] : (list : List α) → list.eraseDups.Nodup
  | [] => List.nodup_nil
  | first :: rest => by
      rw [List.eraseDups_cons, List.nodup_cons]
      exact ⟨by simp, nodup_eraseDups _⟩
termination_by list => list.length
decreasing_by exact Nat.lt_succ_of_le (List.length_filter_le _ _)

/-- A list with an element more has it as its last one unless it was there before. -/
theorem eraseDups_concat [BEq α] [LawfulBEq α] (list : List α) (item : α) :
    (list ++ [item]).eraseDups =
      if list.contains item then list.eraseDups else list.eraseDups ++ [item] := by
  rw [List.eraseDups_append, List.cons_removeAll]
  cases list.contains item with
  | true => simp [List.removeAll]
  | false => simp [List.removeAll, List.eraseDups_cons]

/-- What is picked last from a list with an element more is picked from that one, if anything is. -/
theorem getLast_filterMap_concat (pick : α → Option β) (list : List α) (item : α) :
    ((list ++ [item]).filterMap pick).getLast? =
      (pick item).or (list.filterMap pick).getLast? := by
  rw [List.filterMap_append]
  cases picked : pick item with
  | none => simp [picked]
  | some other => simp [picked]

/-- Nothing is found under a key that no entry has. -/
theorem lookup_eq_none_of_notMem [BEq α] [LawfulBEq α] {entries : List (α × β)} {key : α}
    (absent : key ∉ entries.map Prod.fst) : entries.lookup key = none := by
  refine List.lookup_eq_none_iff.mpr fun entry listed => ?_
  have apart : key ≠ entry.1 := by
    rintro rfl
    exact absent (List.mem_map_of_mem listed)
  simpa using apart

/-- What is found under a key is found whether the entries of another key are there or not. -/
theorem lookup_filter_ne [BEq α] [LawfulBEq α] {entries : List (α × β)} {key removed : α}
    (other : key ≠ removed) :
    (entries.filter fun entry => entry.1 != removed).lookup key = entries.lookup key := by
  induction entries with
  | nil => rfl
  | cons entry rest ih =>
      rcases entry with ⟨held, value⟩
      by_cases same : held = removed
      · have apart : (key == held) = false := by simpa [same] using other
        rw [List.filter_cons_of_neg (by simp [same]), List.lookup_cons, apart]
        exact ih
      · rw [List.filter_cons_of_pos (by simpa using same), List.lookup_cons, List.lookup_cons, ih]

/-- The first element of a list that is not in order is wrong in some way. -/
def First (ordered wrong : α → Prop) (list : List α) : Prop :=
  ∃ before element behind, list = before ++ element :: behind ∧
    (∀ earlier ∈ before, ordered earlier) ∧ wrong element

theorem first_nil {ordered wrong : α → Prop} : ¬First ordered wrong [] := by
  rintro ⟨before, element, behind, split, -⟩
  simp at split

/-- What comes first is the head of a list, or it comes first behind a head that is in order. -/
theorem first_cons {ordered wrong : α → Prop} {head : α} {rest : List α} :
    First ordered wrong (head :: rest) ↔ wrong head ∨ ordered head ∧ First ordered wrong rest := by
  constructor
  · rintro ⟨before, element, behind, split, passed, found⟩
    cases before with
    | nil =>
        obtain ⟨rfl, -⟩ := List.cons.inj split
        exact .inl found
    | cons first before =>
        obtain ⟨rfl, rfl⟩ := List.cons.inj split
        obtain ⟨now, later⟩ := List.forall_mem_cons.mp passed
        exact .inr ⟨now, before, element, behind, rfl, later, found⟩
  · rintro (found | ⟨now, before, element, behind, rfl, later, found⟩)
    · exact ⟨[], head, rest, rfl, List.forall_mem_nil _, found⟩
    · exact ⟨head :: before, element, behind, rfl, List.forall_mem_cons.mpr ⟨now, later⟩, found⟩

/-- A list whose elements all have results has the list of them as its result. -/
theorem mapM_eq_ok {step : α → Except ε β} {value : α → β} {list : List α}
    (found : ∀ element ∈ list, step element = .ok (value element)) :
    list.mapM step = .ok (list.map value) := by
  induction list with
  | nil => rfl
  | cons element rest ih =>
      rw [List.mapM_cons, found element List.mem_cons_self,
        ih fun other member => found other (List.mem_cons_of_mem _ member)]
      rfl

/-- A list that has no result has a first element without one, whose failure is the one of the
list. -/
theorem split_of_mapM_eq_error {step : α → Except ε β} {list : List α} {failure : ε}
    (failed : list.mapM step = .error failure) : ∃ before element behind,
      list = before ++ element :: behind ∧ (∀ other ∈ before, ∃ value, step other = .ok value) ∧
        step element = .error failure := by
  induction list with
  | nil => cases failed
  | cons first rest ih =>
      rw [List.mapM_cons] at failed
      cases head : step first with
      | error cause =>
          rw [head] at failed
          cases failed
          exact ⟨[], first, rest, rfl, List.forall_mem_nil _, head⟩
      | ok value =>
          rw [head] at failed
          cases tail : rest.mapM step with
          | ok others => rw [tail] at failed; cases failed
          | error cause =>
              rw [tail] at failed
              cases failed
              obtain ⟨before, element, behind, rfl, found, last⟩ := ih tail
              exact ⟨first :: before, element, behind, rfl,
                List.forall_mem_cons.mpr ⟨⟨value, head⟩, found⟩, last⟩

/-- A list that has a result has one for each of its elements. -/
theorem exists_of_mapM_eq_ok {step : α → Except ε β} {list : List α} {values : List β}
    (found : list.mapM step = .ok values) :
    ∀ element ∈ list, ∃ value, step element = .ok value := by
  induction list generalizing values with
  | nil => simp
  | cons first rest ih =>
      rw [List.mapM_cons] at found
      intro element member
      cases head : step first with
      | error failure => rw [head] at found; cases found
      | ok value =>
          rw [head] at found
          cases tail : rest.mapM step with
          | error failure => rw [tail] at found; cases found
          | ok others =>
              rcases List.mem_cons.mp member with rfl | later
              · exact ⟨value, head⟩
              · exact ih tail element later

end OrgFederation

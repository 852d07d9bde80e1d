import Mathlib.Data.List.DropRight
import OrgFederation.Text.Blank

namespace OrgFederation.Text

/-- The code points with the property `White_Space`. -/
def whiteSpace : List Nat :=
  [0x09, 0x0A, 0x0B, 0x0C, 0x0D, 0x20, 0x85, 0xA0, 0x1680, 0x2000, 0x2001, 0x2002, 0x2003, 0x2004,
    0x2005, 0x2006, 0x2007, 0x2008, 0x2009, 0x200A, 0x2028, 0x2029, 0x202F, 0x205F, 0x3000]

/-- A character is white space. -/
def White (letter : Char) : Prop :=
  letter.toNat ∈ whiteSpace

instance (letter : Char) : Decidable (White letter) :=
  inferInstanceAs (Decidable (_ ∈ _))

theorem isBlank_iff {letter : Char} : isBlank letter = true ↔ White letter := by
  simp only [isBlank, White, whiteSpace, Bool.or_eq_true, Bool.and_eq_true, decide_eq_true_eq,
    beq_iff_eq, List.mem_cons, List.not_mem_nil, or_false]
  omega

/-- A text of white space alone. -/
def AllWhite (text : String) : Prop :=
  ∀ letter ∈ text.toList, White letter

/-- The part of a text between the white space at its ends. -/
structure Trims (text core : String) : Prop where
  cut : ∃ before behind, text = before ++ core ++ behind ∧ AllWhite before ∧ AllWhite behind
  starts : ∀ letter, core.toList.head? = some letter → ¬White letter
  ends : ∀ letter, core.toList.getLast? = some letter → ¬White letter

section Letters

variable {before letters behind : List Char}

theorem dropBlanks_append (white : ∀ letter ∈ before, White letter) :
    dropBlanks (before ++ letters) = dropBlanks letters :=
  List.dropWhile_append_of_pos fun letter inside => isBlank_iff.mpr (white letter inside)

theorem dropBlanks_eq_nil (white : ∀ letter ∈ letters, White letter) : dropBlanks letters = [] :=
  List.dropWhile_eq_nil_iff.mpr fun letter inside => isBlank_iff.mpr (white letter inside)

/-- White space at the ends is no part of what is trimmed. -/
theorem trimmed_between (first : ∀ letter ∈ before, White letter)
    (last : ∀ letter ∈ behind, White letter) :
    trimmed (before ++ letters ++ behind) = trimmed letters := by
  have turned : ∀ letter ∈ behind.reverse, White letter := fun letter inside =>
    last letter (List.mem_reverse.mp inside)
  have front : dropBlanks (letters ++ behind) =
      if (dropBlanks letters).isEmpty then dropBlanks behind else dropBlanks letters ++ behind :=
    List.dropWhile_append
  rw [trimmed, trimmed, List.append_assoc, dropBlanks_append first, front]
  -- Either a letter stops the dropping, or all is blank up to the end.
  split
  · next blank => rw [dropBlanks_eq_nil last, List.isEmpty_iff.mp blank]
  · rw [List.reverse_append, dropBlanks_append turned]

/-- Letters with none blank at their ends are trimmed already. -/
theorem trimmed_eq_self (starts : ∀ letter, letters.head? = some letter → ¬White letter)
    (ends : ∀ letter, letters.getLast? = some letter → ¬White letter) :
    trimmed letters = letters := by
  have kept {letters : List Char} (starts : ∀ letter, letters.head? = some letter → ¬White letter) :
      dropBlanks letters = letters := by
    cases letters with
    | nil => rfl
    | cons first rest =>
        refine List.dropWhile_cons_of_neg ?_
        rw [isBlank_iff]
        exact starts first rfl
  rw [trimmed, kept starts, kept (by simpa using ends), List.reverse_reverse]

/-- What is trimmed off is white. -/
theorem exists_trimmed (letters : List Char) : ∃ before behind,
    letters = before ++ trimmed letters ++ behind ∧ (∀ letter ∈ before, White letter) ∧
      ∀ letter ∈ behind, White letter := by
  refine ⟨letters.takeWhile isBlank, (dropBlanks letters).rtakeWhile isBlank, ?_, ?_, ?_⟩
  · have back : trimmed letters = (dropBlanks letters).rdropWhile isBlank := rfl
    rw [back, List.append_assoc, List.rdropWhile_append_rtakeWhile]
    exact List.takeWhile_append_dropWhile.symm
  · exact fun letter inside => isBlank_iff.mp (List.mem_takeWhile_imp inside)
  · exact fun letter inside => isBlank_iff.mp (List.mem_rtakeWhile_imp inside)

theorem head_trimmed {letter : Char} (begins : (trimmed letters).head? = some letter) :
    ¬White letter := by
  have front : trimmed letters <+: dropBlanks letters := List.rdropWhile_prefix _ _
  obtain ⟨more, joined⟩ := front
  have begun : (dropBlanks letters).head? = some letter := by
    rw [← joined, List.head?_append, begins]
    rfl
  have held := List.head?_dropWhile_not isBlank letters
  rw [show letters.dropWhile isBlank = dropBlanks letters from rfl, begun] at held
  rw [← isBlank_iff, Bool.not_eq_true]
  exact held

theorem getLast_trimmed {letter : Char} (ends : (trimmed letters).getLast? = some letter) :
    ¬White letter := by
  obtain ⟨visible, same⟩ := List.mem_getLast?_eq_getLast ends
  have held := List.rdropWhile_last_not isBlank (dropBlanks letters) visible
  rw [← isBlank_iff, same]
  exact held

end Letters

/-- A text is trimmed to the part between the white space at its ends. -/
theorem trims_trim (text : String) : Trims text (trim text) := by
  obtain ⟨before, behind, joined, first, last⟩ := exists_trimmed text.toList
  constructor
  case cut =>
    refine ⟨.ofList before, .ofList behind, ?_, by rwa [AllWhite, String.toList_ofList],
      by rwa [AllWhite, String.toList_ofList]⟩
    rw [trim, ← String.ofList_append, ← String.ofList_append, ← joined, String.ofList_toList]
  case starts =>
    intro letter begins
    rw [trim, String.toList_ofList] at begins
    exact head_trimmed begins
  case ends =>
    intro letter ends
    rw [trim, String.toList_ofList] at ends
    exact getLast_trimmed ends

/-- White space around a text is no part of what is trimmed. -/
theorem trim_between {before behind : String} (first : AllWhite before) (last : AllWhite behind)
    (text : String) : trim (before ++ text ++ behind) = trim text := by
  rw [trim, trim, String.toList_append, String.toList_append, trimmed_between first last]

/-- No other part of a text is between the white space at its ends. -/
theorem trim_eq_iff {text core : String} : trim text = core ↔ Trims text core := by
  constructor
  · rintro rfl
    exact trims_trim text
  · rintro ⟨⟨before, behind, rfl, first, last⟩, starts, ends⟩
    rw [trim_between first last, trim, trimmed_eq_self starts ends, String.ofList_toList]

/-- Nothing is left of a text exactly when it is all white space. -/
theorem trim_eq_empty_iff {text : String} : trim text = "" ↔ AllWhite text := by
  constructor
  · intro nothing
    obtain ⟨before, behind, joined, first, last⟩ := (trim_eq_iff.mp nothing).cut
    intro letter inside
    rw [joined, String.append_empty, String.toList_append] at inside
    exact (List.mem_append.mp inside).elim (first letter) (last letter)
  · intro white
    have ended : AllWhite "" := fun _ inside => by cases inside
    have alone := trim_between white ended ""
    rwa [String.append_empty, String.append_empty] at alone

end OrgFederation.Text

import OrgFederation.Number.Literal

namespace OrgFederation.Literal

/-- The number that digits make up behind a significand. -/
def accumulate (significand : Nat) (digits : List Nat) : Nat :=
  digits.foldl (fun value digit => value * 10 + digit) significand

theorem le_accumulate (significand : Nat) (digits : List Nat) :
    significand ≤ accumulate significand digits := by
  induction digits generalizing significand with
  | nil => exact Nat.le_refl _
  | cons digit rest ih =>
      have further := ih (significand * 10 + digit)
      simp only [accumulate, List.foldl_cons] at further ⊢
      omega

/-- Digits are all taken up when the number that they make up fits. -/
theorem absorb_of_le {significand : Nat} {digits : List Nat}
    (fits : accumulate significand digits ≤ Word64.greatest) :
    absorb significand digits = (accumulate significand digits, []) := by
  induction digits generalizing significand with
  | nil => rfl
  | cons digit rest ih =>
      have within : significand * 10 + digit ≤ Word64.greatest :=
        Nat.le_trans (le_accumulate _ rest) fits
      rw [absorb, if_neg (Nat.not_lt.mpr within)]
      exact ih fits

/-- The values of the digits of a number. -/
def digitsOf (number : Nat) : List Nat :=
  (Nat.toDigits 10 number).map fun letter => letter.toNat - 48

theorem accumulate_digitsOf (number : Nat) : accumulate 0 (digitsOf number) = number := by
  have same :
      accumulate 0 (digitsOf number) = Nat.ofDigitChars 10 (Nat.toDigits 10 number) 0 := by
    rw [accumulate, digitsOf, List.foldl_map, Nat.ofDigitChars_eq_foldl]
    simp only [Nat.mul_comm]
    rfl
  rw [same, Nat.ofDigitChars_ten_toDigits]

theorem digitsOf_of_lt {number : Nat} (small : number < 10) : digitsOf number = [number] := by
  rw [digitsOf, Nat.toDigits_of_lt_base small, List.map_singleton,
    Nat.toNat_digitChar_sub_48_of_lt_ten small]

theorem digitsOf_of_le {number : Nat} (large : 10 ≤ number) :
    digitsOf number = digitsOf (number / 10) ++ [number % 10] := by
  have last : number % 10 < 10 := Nat.mod_lt _ (by decide)
  rw [digitsOf, Nat.toDigits_of_base_le (by decide) large, List.map_append, List.map_singleton,
    Nat.toNat_digitChar_sub_48_of_lt_ten last, digitsOf]

/-- The first digit of a positive number is no zero. -/
theorem exists_cons_digitsOf {number : Nat} (positive : 0 < number) :
    ∃ digit rest, digitsOf number = digit :: rest ∧ digit ≠ 0 := by
  induction number using Nat.strongRecOn with
  | ind number ih =>
      by_cases small : number < 10
      · exact ⟨number, [], digitsOf_of_lt small, by omega⟩
      · obtain ⟨digit, rest, first, nonzero⟩ := ih (number / 10) (by omega) (by omega)
        rw [digitsOf_of_le (by omega), first]
        exact ⟨digit, rest ++ [number % 10], rfl, nonzero⟩

/-- The literal of an integer of 64 bits, with or without a sign, has that value. -/
theorem value_integer {value : Int} (notBelow : Word64.leastSigned ≤ value)
    (notAbove : value ≤ Word64.greatest) :
    (⟨decide (value < 0), digitsOf value.natAbs, [], none⟩ : Literal).value? =
      some (.integer value) := by
  have size : value.natAbs ≤ Word64.greatest := by
    simp only [Word64.leastSigned, Word64.greatest] at notBelow notAbove ⊢
    omega
  have whole : absorb 0 (digitsOf value.natAbs) = (value.natAbs, []) := by
    rw [absorb_of_le (by rwa [accumulate_digitsOf]), accumulate_digitsOf]
  unfold value?
  rw [whole]
  by_cases negative : value < 0
  · have positive : 1 ≤ value.natAbs := by omega
    have same : -(value.natAbs : Int) = value := by omega
    have within : (decide (1 ≤ value.natAbs) &&
        decide (Word64.leastSigned ≤ -(value.natAbs : Int))) = true := by
      rw [same, decide_eq_true positive, decide_eq_true notBelow]
      rfl
    rw [decide_eq_true negative]
    show (if _ then some (Number.integer (-(value.natAbs : Int))) else _) = _
    rw [if_pos within, same]
  · have same : (value.natAbs : Int) = value := by omega
    rw [decide_eq_false negative]
    show some (Number.integer (value.natAbs : Int)) = _
    rw [same]

end OrgFederation.Literal

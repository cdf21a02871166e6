import OfflineSigner.Text.Decimal

/-!
# Decimal digits

The written form of a number has at least one digit, holds nothing but digits, and begins with a
zero only if the number is zero. A number of 64 bits is read back from it.
-/

namespace OfflineSigner.Decimal

/-- The character of a number below ten is a digit. -/
theorem isDigit_digit : ∀ value < 10, (digit value).isDigit = true := by
  decide

/-- The code of a digit lies its value above that of zero. -/
theorem toNat_digit : ∀ value < 10, (digit value).toNat - 48 = value := by
  decide

/-- Only the number zero is written as the digit zero. -/
theorem digit_eq_zero : ∀ value < 10, digit value = '0' → value = 0 := by
  decide

/-- A number has at least one digit. -/
theorem digits_ne_nil (n : Nat) : digits n ≠ [] := by
  rw [digits]
  split <;> simp

/-- A number is written with digits only. -/
theorem isDigit_of_mem_digits {n : Nat} {c : Char} (h : c ∈ digits n) : c.isDigit = true := by
  induction n using digits.induct with
  | case1 n hsmall =>
    rw [digits, if_pos hsmall, List.mem_singleton] at h
    rw [h]
    exact isDigit_digit n hsmall
  | case2 n hlarge ih =>
    rw [digits, if_neg hlarge, List.mem_append, List.mem_singleton] at h
    rcases h with hfront | rfl
    · exact ih hfront
    · exact isDigit_digit (n % 10) (by omega)

/-- The written form of a number begins with a digit. -/
theorem exists_digits_eq_cons (n : Nat) :
    ∃ first rest, digits n = first :: rest ∧ first.isDigit = true := by
  obtain ⟨first, rest, hdigits⟩ := List.exists_cons_of_ne_nil (digits_ne_nil n)
  have hmem : first ∈ digits n := by
    rw [hdigits]
    exact List.mem_cons_self
  exact ⟨first, rest, hdigits, isDigit_of_mem_digits hmem⟩

/-- A number that is written with a leading zero is zero. -/
theorem eq_zero_of_head?_digits {n : Nat} (h : (digits n).head? = some '0') : n = 0 := by
  induction n using digits.induct with
  | case1 n hsmall =>
    rw [digits, if_pos hsmall, List.head?_cons, Option.some.injEq] at h
    exact digit_eq_zero n hsmall h
  | case2 n hlarge ih =>
    obtain ⟨first, rest, hdigits⟩ := List.exists_cons_of_ne_nil (digits_ne_nil (n / 10))
    rw [digits, if_neg hlarge, hdigits, List.cons_append, List.head?_cons] at h
    rw [hdigits, List.head?_cons] at ih
    have hquotient := ih h
    omega

/-- The character of a number below ten has that number as its value. -/
theorem digitValue?_digit : ∀ value < 10, digitValue? (digit value) = some value := by
  decide

/-- Reading the digits of a number within the limit brings the running total to that number. -/
theorem magnitude_digits_append {limit n : Nat} (hn : n ≤ limit) (beyond : Fault)
    (rest : List Char) :
    magnitude limit beyond 0 (digits n ++ rest) = magnitude limit beyond n rest := by
  induction n using digits.induct generalizing rest with
  | case1 n hsmall =>
    have htotal : 10 * 0 + n = n := by omega
    rw [digits, if_pos hsmall, List.singleton_append, magnitude, digitValue?_digit n hsmall]
    simp only [htotal, if_pos hn]
  | case2 n hlarge ih =>
    have htotal : 10 * (n / 10) + n % 10 = n := by omega
    rw [digits, if_neg hlarge, List.append_assoc, ih (by omega), List.singleton_append, magnitude,
      digitValue?_digit (n % 10) (by omega)]
    simp only [htotal, if_pos hn]

/-- What begins with a digit is read without a sign. -/
theorem readNat_of_isDigit {first : Char} (hfirst : first.isDigit = true) (limit : Nat)
    (rest : List Char) :
    readNat limit (first :: rest) = magnitude limit .tooLarge 0 (first :: rest) := by
  have hsign : first ≠ '+' := by
    rintro rfl
    contradiction
  unfold readNat
  split
  · contradiction
  · rename_i heq
    exact absurd (List.cons.inj heq).1 hsign
  · rename_i heq
    exact absurd (List.cons.inj heq).1 hsign
  · rfl

/-- The decimal text of a 64-bit number is read as that number. -/
theorem readUInt64_ofNat (value : UInt64) : readUInt64 (ofNat value.toNat) = .ok value := by
  have hbound : value.toNat ≤ (1 <<< 64) - 1 := Nat.le_sub_one_of_lt value.toNat_lt
  obtain ⟨first, rest, hdigits, hfirst⟩ := exists_digits_eq_cons value.toNat
  have hread : readNat ((1 <<< 64) - 1) (digits value.toNat) = .ok value.toNat := by
    rw [hdigits, readNat_of_isDigit hfirst, ← hdigits, ← List.append_nil (digits value.toNat),
      magnitude_digits_append hbound]
    rfl
  rw [readUInt64, ofNat, String.toList_ofList, hread]
  exact congrArg Except.ok (UInt64.ofNat_toNat)

end OfflineSigner.Decimal

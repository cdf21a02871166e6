import OfflineSigner.Json.Printer
import OfflineSigner.Json.Reader
import OfflineSigner.Proofs.Text.Decimal

/-!
# Integers in JSON text

An integer between -2^63 and 2^64 - 1 is read back from its digits, whatever follows them that
cannot belong to a number. The reader takes the longest run of digits, so the statement needs that
condition on the rest.
-/

namespace OfflineSigner.Json

/-- What follows begins with nothing that a number could go on with. -/
def EndsNumber (rest : List Char) : Prop :=
  ∀ c ∈ rest.head?, c.isDigit = false ∧ c ≠ '.' ∧ c ≠ 'e' ∧ c ≠ 'E'

/-- Nothing goes on with a number at the end of the text. -/
theorem endsNumber_nil : EndsNumber [] := by
  intro c hc
  contradiction

/-- Digits followed by no digit are taken as a whole. -/
theorem spanDigits_append {digits rest : List Char} (hdigits : ∀ c ∈ digits, c.isDigit = true)
    (hrest : EndsNumber rest) : spanDigits (digits ++ rest) = (digits, rest) := by
  have htake : rest.takeWhile Char.isDigit = [] := by
    cases rest with
    | nil => rfl
    | cons c rest => rw [List.takeWhile_cons, (hrest c rfl).1, if_neg Bool.false_ne_true]
  have hdrop : rest.dropWhile Char.isDigit = rest := by
    cases rest with
    | nil => rfl
    | cons c rest => rw [List.dropWhile_cons, (hrest c rfl).1, if_neg Bool.false_ne_true]
  rw [spanDigits, List.takeWhile_append_of_pos hdigits, List.dropWhile_append_of_pos hdigits,
    htake, hdrop, List.append_nil]

/-- What ends a number brings no digits after a point. -/
theorem readDecimals_of_endsNumber {rest : List Char} (hrest : EndsNumber rest) :
    readDecimals rest = some ([], rest) := by
  unfold readDecimals
  split
  · exact absurd rfl (hrest '.' rfl).2.1
  · rfl

/-- What ends a number brings no power of ten. -/
theorem readPower_of_endsNumber {rest : List Char} (hrest : EndsNumber rest) :
    readPower rest = some (none, rest) := by
  unfold readPower
  split
  · exact absurd rfl (hrest 'e' rfl).2.2.1
  · exact absurd rfl (hrest 'E' rfl).2.2.2
  · rfl

/-- Digits that follow others multiply what these stand for. -/
theorem digitsValue_append (total : Nat) (digits others : List Char) :
    digitsValue total (digits ++ others) = digitsValue (digitsValue total digits) others :=
  List.foldl_append

/-- The digits of a number stand for it. -/
theorem digitsValue_digits (n : Nat) : digitsValue 0 (Decimal.digits n) = n := by
  induction n using Decimal.digits.induct with
  | case1 n hsmall =>
    rw [Decimal.digits, if_pos hsmall]
    change 10 * 0 + ((Decimal.digit n).toNat - 48) = n
    rw [Decimal.toNat_digit n hsmall]
    omega
  | case2 n hlarge ih =>
    rw [Decimal.digits, if_neg hlarge, digitsValue_append, ih]
    change 10 * (n / 10) + ((Decimal.digit (n % 10)).toNat - 48) = n
    rw [Decimal.toNat_digit (n % 10) (by omega)]
    omega

/-- The digits of a number are no text that is refused for a leading zero. -/
theorem leadingZero_digits (n : Nat) :
    ((Decimal.digits n).isEmpty ||
      ((Decimal.digits n).head? == some '0' && 1 < (Decimal.digits n).length)) = false := by
  by_cases hzero : n = 0
  · rw [hzero, Decimal.digits]
    rfl
  · have hhead : (Decimal.digits n).head? ≠ some '0' :=
      fun h => hzero (Decimal.eq_zero_of_head?_digits h)
    simp [hhead, Decimal.digits_ne_nil n]

/-- Digits that end with the number are read as an integer if it fits, and as a double if not. -/
theorem readUnsigned_digits (negative : Bool) (n : Nat) {rest : List Char}
    (hrest : EndsNumber rest) :
    readUnsigned negative (Decimal.digits n ++ rest) =
      if !negative && n < 1 <<< 64 then some (.integer n, rest)
      else if negative && 0 < n && n ≤ 1 <<< 63 then some (.integer (-n), rest)
      else (doubleOf negative (Decimal.digits n) [] 0).map fun value => (value, rest) := by
  unfold readUnsigned
  rw [spanDigits_append (fun c => Decimal.isDigit_of_mem_digits) hrest]
  simp only [leadingZero_digits, readDecimals_of_endsNumber hrest, digitsValue_digits]
  change (readPower rest).bind _ = _
  rw [readPower_of_endsNumber hrest, Option.map_eq_bind]
  rfl

/-- What begins without a sign is read as it stands. -/
theorem readNumber_of_ne_minus {first : Char} (hfirst : first ≠ '-') (rest : List Char) :
    readNumber (first :: rest) = readUnsigned false (first :: rest) := by
  unfold readNumber
  split
  · rename_i hsign
    exact absurd (List.cons.inj hsign).1 hfirst
  · rfl

/-- Reading inverts writing on the integers that are held exactly. -/
theorem readNumber_integerChars {n : Int} (hlow : -(1 <<< 63) ≤ n) (hhigh : n < 1 <<< 64)
    {rest : List Char} (hrest : EndsNumber rest) :
    readNumber (integerChars n ++ rest) = some (.integer n, rest) := by
  unfold integerChars
  split
  · rename_i hnegative
    have hvalue : -(n.natAbs : Int) = n := by omega
    have hpos : 0 < n.natAbs := by omega
    have hbound : n.natAbs ≤ 1 <<< 63 := by omega
    rw [List.cons_append, readNumber, readUnsigned_digits true n.natAbs hrest, hvalue,
      Bool.not_true, Bool.false_and, if_neg Bool.false_ne_true, decide_eq_true hpos,
      decide_eq_true hbound]
    rfl
  · rename_i hnatural
    have hvalue : (n.natAbs : Int) = n := by omega
    have hbound : n.natAbs < 1 <<< 64 := by omega
    have hread := readUnsigned_digits false n.natAbs hrest
    obtain ⟨first, others, hdigits, hfirst⟩ := Decimal.exists_digits_eq_cons n.natAbs
    have hsign : first ≠ '-' := by
      rintro rfl
      contradiction
    rw [hdigits, List.cons_append] at hread ⊢
    rw [readNumber_of_ne_minus hsign, hread, hvalue, decide_eq_true hbound]
    rfl

end OfflineSigner.Json

import OfflineSigner.Json.Printer
import OfflineSigner.Json.Reader
import OfflineSigner.Proofs.Text.Hex

/-!
# Texts in JSON text

Every character is read back from its written form, whether it stands for itself, is escaped by a
letter or by its number, and no written form begins with the closing quote. So a text of any
characters is read back, and its end is found where it was written.
-/

namespace OfflineSigner.Json

/-- A written character begins with something else than a quote. -/
theorem exists_escape_eq_cons (c : Char) :
    ∃ first rest, escape c = first :: rest ∧ first ≠ '"' := by
  unfold escape
  by_cases hquote : c = '"'
  · exact ⟨'\\', ['"'], if_pos hquote, by decide⟩
  · rw [if_neg hquote]
    repeat' split
    all_goals exact ⟨_, _, rfl, by first | decide | exact hquote⟩

/-- The code unit that is written for a control is read. -/
theorem readUnit_control {c : Char} (hcontrol : c.toNat < 0x20) (rest : List Char) :
    readUnit ('0' :: '0' :: Hex.digit (c.toNat / 16) :: Hex.digit (c.toNat % 16) :: rest) =
      some (c.toNat, rest) := by
  have hhigh := Hex.digitValue?_digit (c.toNat / 16) (by omega)
  have hlow := Hex.digitValue?_digit (c.toNat % 16) (by omega)
  have hzero : Hex.digitValue? '0'.toNat = some 0 := by decide
  have hvalue : 4096 * 0 + 256 * 0 + 16 * (c.toNat / 16) + c.toNat % 16 = c.toNat := by omega
  rw [readUnit, hzero, hhigh, hlow]
  exact congrArg (fun unit => some (unit, rest)) hvalue

/-- A character that is below the space stands for itself after its code unit. -/
theorem readScalar_control {c : Char} (hcontrol : c.toNat < 0x20) (rest : List Char) :
    readScalar c.toNat rest = some (c, rest) := by
  unfold readScalar
  rw [if_neg (by omega), if_neg (by omega), Char.ofNat_toNat]

/-- A character that needs no escape is read as it stands. -/
theorem readChar_raw {c : Char} (hquote : c ≠ '"') (hbackslash : c ≠ '\\')
    (hspace : 0x20 ≤ c.toNat) (rest : List Char) : readChar (c :: rest) = some (c, rest) := by
  unfold readChar
  split <;> simp_all

/-- Reading a character inverts writing it. -/
theorem readChar_escape (c : Char) (rest : List Char) :
    readChar (escape c ++ rest) = some (c, rest) := by
  unfold escape
  repeat' split
  all_goals try (subst_vars; rfl)
  · rename_i hcontrol
    change (readUnit ('0' :: '0' :: Hex.digit (c.toNat / 16) :: Hex.digit (c.toNat % 16) ::
      rest)).bind (fun unit => readScalar unit.1 unit.2) = _
    rw [readUnit_control hcontrol]
    exact readScalar_control hcontrol rest
  · exact readChar_raw ‹_› ‹_› (by omega) rest

/-- Behind anything but a quote one more character is read. -/
theorem readChars_of_ne_quote {first : Char} (hfirst : first ≠ '"') (others : List Char)
    (fuel : Nat) :
    readChars (fuel + 1) (first :: others) =
      (readChar (first :: others)).bind fun read =>
        (readChars fuel read.2).map fun tail => (read.1 :: tail.1, tail.2) := by
  rw [readChars]
  · simp only [Option.map_eq_bind]
    rfl
  · intro rest hquote
    exact hfirst (List.cons.inj hquote).1

/-- The characters of a text are read up to the closing quote. -/
theorem readChars_escape (text rest : List Char) (fuel : Nat) (hfuel : text.length ≤ fuel) :
    readChars fuel (text.flatMap escape ++ '"' :: rest) = some (text, rest) := by
  induction text generalizing fuel with
  | nil =>
    rw [List.flatMap_nil, List.nil_append]
    unfold readChars
    rfl
  | cons c text ih =>
    cases fuel with
    | zero => contradiction
    | succ fuel =>
      obtain ⟨first, others, hescape, hfirst⟩ := exists_escape_eq_cons c
      have hread := readChar_escape c (text.flatMap escape ++ '"' :: rest)
      rw [List.flatMap_cons, List.append_assoc]
      rw [hescape, List.cons_append] at hread ⊢
      rw [readChars_of_ne_quote hfirst, hread]
      simp [ih fuel (Nat.le_of_succ_le_succ hfuel)]

/-- A text is not longer than its written form. -/
theorem length_le_length_escape (text : List Char) :
    text.length ≤ (text.flatMap escape).length := by
  induction text with
  | nil => exact Nat.le_refl _
  | cons c text ih =>
    obtain ⟨first, others, hescape, -⟩ := exists_escape_eq_cons c
    rw [List.flatMap_cons, hescape, List.length_append, List.length_cons, List.length_cons]
    omega

/-- A quoted text is its opening quote, its written characters and its closing quote. -/
theorem quoted_append (text : String) (rest : List Char) :
    quoted text ++ rest = '"' :: (text.toList.flatMap escape ++ '"' :: rest) := by
  simp [quoted]

/-- A text is read back from behind its opening quote. -/
theorem readText_escape (text : String) (rest : List Char) :
    readText (text.toList.flatMap escape ++ '"' :: rest) = some (text, rest) := by
  have hfuel : text.toList.length ≤ (text.toList.flatMap escape ++ '"' :: rest).length := by
    have hlen := length_le_length_escape text.toList
    rw [List.length_append]
    omega
  rw [readText, readChars_escape text.toList rest _ hfuel]
  simp only [Option.map_some, String.ofList_toList]

end OfflineSigner.Json

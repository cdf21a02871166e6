import OfflineSigner.Text.Hex
import Mathlib.Tactic.SplitIfs

/-!
# A quoted character tells the character

What a message shows of a character between single quotes is read back to the number of the
character, so different characters are shown differently. The number that stands for a character
without a glyph is written in hexadecimal, and such a text is read back digit by digit.
-/

namespace OfflineSigner.Text

/-- The number that is written with some hexadecimal digits, the highest one first. -/
def hexValue (digits : List Char) : Nat :=
  digits.foldl (fun total digit => 16 * total + (Hex.digitValue? digit.toNat).getD 0) 0

/-- The character of a number below sixteen has that number as its value. -/
theorem digitValue?_digitChar :
    ∀ value < 16, Hex.digitValue? (Nat.digitChar value).toNat = some value := by
  decide

/-- One more digit adds its value to sixteen times the number before it. -/
theorem hexValue_append_digitChar {value : Nat} (front : List Char) (hvalue : value < 16) :
    hexValue (front ++ [Nat.digitChar value]) = 16 * hexValue front + value := by
  simp [hexValue, digitValue?_digitChar value hvalue]

/-- The hexadecimal digits of a number are read back. -/
theorem hexValue_toDigits (n : Nat) : hexValue (Nat.toDigits 16 n) = n := by
  induction n using Nat.strongRecOn with
  | ind n ih =>
    by_cases hsmall : n < 16
    · rw [Nat.toDigits_of_lt_base hsmall]
      simp [hexValue, digitValue?_digitChar n hsmall]
    · have hquotient : n / 16 < n := by omega
      rw [Nat.toDigits_of_base_le (by decide) (by omega),
        hexValue_append_digitChar _ (Nat.mod_lt n (by decide)), ih (n / 16) hquotient]
      omega

/-- The number of the character that is shown as these characters between single quotes. -/
def shownCode : List Char → Nat
  | [c] => c.toNat
  | ['\\', '0'] => 0
  | ['\\', 't'] => 9
  | ['\\', 'r'] => 13
  | ['\\', 'n'] => 10
  | '\\' :: 'u' :: '{' :: digits => hexValue digits.dropLast
  | [_, c] => c.toNat
  | _ => 0

/-- What is shown of a character between single quotes tells its number. -/
theorem shownCode_escapeWithin (c : Char) : shownCode (escapeWithin '\'' c).toList = c.toNat := by
  unfold escapeWithin
  split_ifs with hquoted hnul htab hreturn hnewline hunprintable
  · rw [Bool.or_eq_true, beq_iff_eq, beq_iff_eq] at hquoted
    rcases hquoted with rfl | rfl <;> rfl
  · rw [beq_iff_eq.mp hnul]; rfl
  · rw [beq_iff_eq.mp htab]; rfl
  · rw [beq_iff_eq.mp hreturn]; rfl
  · rw [beq_iff_eq.mp hnewline]; rfl
  · have hshown : ("\\u\x7b" ++ hexNumber c.toNat ++ "\x7d").toList =
        '\\' :: 'u' :: '{' :: (Nat.toDigits 16 c.toNat ++ ['}']) := by
      simp [hexNumber]
    rw [hshown, shownCode, List.dropLast_concat, hexValue_toDigits]
  · rw [String.toList_singleton, shownCode]

/-- Different characters are shown differently between single quotes. -/
theorem quoteChar_injective : Function.Injective quoteChar := by
  intro c c' h
  have hchars := congrArg String.toList h
  simp only [quoteChar, String.toList_append] at hchars
  have hshown := List.append_cancel_left (List.append_cancel_right hchars)
  have hcode := congrArg shownCode hshown
  rw [shownCode_escapeWithin, shownCode_escapeWithin] at hcode
  exact Char.toNat_inj.mp hcode

end OfflineSigner.Text

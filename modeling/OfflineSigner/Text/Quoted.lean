import OfflineSigner.Text.Unprintable

/-!
# Quoted characters and texts

How a message shows a character or a text that it was given: between quotes, with a backslash
before the quote in use and the backslash, with short names for four controls, and with the number
of every other character that cannot be seen.
-/

namespace OfflineSigner.Text

/-- The digits of a number in lower-case hexadecimal. -/
def hexNumber (n : Nat) : String :=
  String.ofList (Nat.toDigits 16 n)

/-- A character as it is shown between the given quotes. -/
def escapeWithin (quote : Char) (c : Char) : String :=
  if c == quote || c == '\\' then String.ofList ['\\', c]
  else if c == '\x00' then "\\0"
  else if c == '\t' then "\\t"
  else if c == '\r' then "\\r"
  else if c == '\n' then "\\n"
  else if isUnprintable c then "\\u\x7b" ++ hexNumber c.toNat ++ "\x7d"
  else String.singleton c

/-- A character between single quotes. -/
def quoteChar (c : Char) : String :=
  "'" ++ escapeWithin '\'' c ++ "'"

/-- A text between double quotes. -/
def quote (text : String) : String :=
  "\"" ++ String.join (text.toList.map (escapeWithin '"')) ++ "\""

end OfflineSigner.Text

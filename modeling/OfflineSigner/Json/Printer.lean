import OfflineSigner.Json.Value
import OfflineSigner.Text.Hex

/-!
# JSON text

A value is written without blanks. In a text the quote, the backslash and the controls below the
space are escaped, five of the controls by a letter of their own and the others by four lower-case
hexadecimal digits; every other character stands for itself.
-/

namespace OfflineSigner.Json

/-- A character as it stands within quotes. -/
def escape (c : Char) : List Char :=
  if c = '"' then ['\\', '"']
  else if c = '\\' then ['\\', '\\']
  else if c = '\x08' then ['\\', 'b']
  else if c = '\x0c' then ['\\', 'f']
  else if c = '\n' then ['\\', 'n']
  else if c = '\r' then ['\\', 'r']
  else if c = '\t' then ['\\', 't']
  else if c.toNat < 0x20 then
    ['\\', 'u', '0', '0', Hex.digit (c.toNat / 16), Hex.digit (c.toNat % 16)]
  else [c]

/-- A text between quotes. -/
def quoted (text : String) : List Char :=
  '"' :: text.toList.flatMap escape ++ ['"']

/-- The digits of an integer with its sign. -/
def integerChars (n : Int) : List Char :=
  if n < 0 then '-' :: Decimal.digits n.natAbs else Decimal.digits n.natAbs

mutual

/-- The characters of a value. -/
def chars : Json → List Char
  | .null => ['n', 'u', 'l', 'l']
  | .boolean true => ['t', 'r', 'u', 'e']
  | .boolean false => ['f', 'a', 'l', 's', 'e']
  | .integer n => integerChars n
  | .double x => x.text.toList
  | .string text => quoted text
  | .array [] => ['[', ']']
  | .array (item :: rest) => '[' :: chars item ++ itemChars rest
  | .object [] => ['{', '}']
  | .object ((name, value) :: rest) => '{' :: quoted name ++ ':' :: chars value ++ memberChars rest

/-- The characters of the items after the first, with the closing bracket. -/
def itemChars : List Json → List Char
  | [] => [']']
  | item :: rest => ',' :: chars item ++ itemChars rest

/-- The characters of the members after the first, with the closing brace. -/
def memberChars : List (String × Json) → List Char
  | [] => ['}']
  | (name, value) :: rest => ',' :: quoted name ++ ':' :: chars value ++ memberChars rest

end

/-- The text of a value. -/
def render (value : Json) : String :=
  String.ofList value.chars

end OfflineSigner.Json

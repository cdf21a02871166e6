import OfflineSigner.Bytes.Utf8
import OfflineSigner.Text.Blank
import OfflineSigner.Text.Quoted

/-!
# Hexadecimal text

Bytes are written as two lower-case digits each. Reading is lenient in its spelling: white space
at the ends and every space character are dropped first, and letters may have either case. What is
left must be an even number of UTF-8 bytes that are all hexadecimal digits; otherwise the fault is
the odd length or, if the length is even, the first byte that is no digit.
-/

namespace OfflineSigner.Hex

/-- Why a text is no hexadecimal text. -/
inductive Fault where
  | oddLength
  /-- The byte at this position is no hexadecimal digit. -/
  | badDigit (byte : UInt8) (position : Nat)
deriving DecidableEq

/-- The wording of a fault; the byte is shown as the character with its number. -/
def Fault.message : Fault → String
  | .oddLength => "Odd number of digits"
  | .badDigit byte position =>
    s!"Invalid character {Text.quoteChar (Char.ofNat byte.toNat)} at position {position}"

/-- The lower-case digit of a number below sixteen. -/
def digit (value : Nat) : Char :=
  Char.ofNat (if value < 10 then value + 48 else value + 87)

/-- The two digits of each byte, the high one first. -/
def digits (bytes : List UInt8) : List Char :=
  bytes.flatMap fun byte => [digit (byte.toNat / 16), digit (byte.toNat % 16)]

/-- The hexadecimal text of some bytes. -/
def encode (bytes : List UInt8) : String :=
  String.ofList (digits bytes)

/-- The value of the digit with this code, of either case. -/
def digitValue? (code : Nat) : Option Nat :=
  if 48 ≤ code ∧ code ≤ 57 then some (code - 48)
  else if 97 ≤ code ∧ code ≤ 102 then some (code - 87)
  else if 65 ≤ code ∧ code ≤ 70 then some (code - 55)
  else none

/-- The value of the digit that stands at a position. -/
def digitAt (position : Nat) (byte : UInt8) : Except Fault Nat :=
  match digitValue? byte.toNat with
  | some value => .ok value
  | none => .error (.badDigit byte position)

/-- Reads digits in pairs; `position` is that of the first one. -/
def decodePairs (position : Nat) : List UInt8 → Except Fault (List UInt8)
  | high :: low :: rest => do
    let h ← digitAt position high
    let l ← digitAt (position + 1) low
    let bytes ← decodePairs (position + 2) rest
    return UInt8.ofNat (16 * h + l) :: bytes
  | _ => .ok []

/-- Reads text that is spelt with digits alone. -/
def decodeStrict (spelling : List UInt8) : Except Fault (List UInt8) :=
  if spelling.length % 2 = 1 then .error .oddLength else decodePairs 0 spelling

/-- A spelling without white space at its ends and without space characters. -/
def normalize (text : String) : String :=
  String.ofList ((Text.trimBlanks text.toList).filter (· != ' '))

/-- Reads hexadecimal text in any accepted spelling. -/
def decode (text : String) : Except Fault (List UInt8) :=
  decodeStrict (utf8 (normalize text))

end OfflineSigner.Hex

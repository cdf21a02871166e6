/-!
# Decimal numbers in text

Writing gives the digits of a number without leading zeros. Reading accepts an optional sign and
any number of digits, leading zeros included, and looks at the characters from left to right: the
first that is no digit, or the first that takes the number out of its range, is the fault.
-/

namespace OfflineSigner.Decimal

/-- The character of a digit below ten. -/
def digit (value : Nat) : Char :=
  Char.ofNat (value + 48)

/-- The value of a digit. -/
def digitValue? (c : Char) : Option Nat :=
  if '0' ≤ c ∧ c ≤ '9' then some (c.toNat - 48) else none

/-- The digits of a number, the highest first. -/
def digits (n : Nat) : List Char :=
  if n < 10 then [digit n] else digits (n / 10) ++ [digit (n % 10)]
termination_by n

/-- The decimal text of a natural number. -/
def ofNat (n : Nat) : String :=
  String.ofList (digits n)

/-- The decimal text of an integer, with a minus sign when it is negative. -/
def ofInt (n : Int) : String :=
  if n < 0 then "-" ++ ofNat n.natAbs else ofNat n.natAbs

/-- The number that some digits stand for; none when a character is no digit. -/
def value? (chars : List Char) : Option Nat :=
  chars.foldlM (fun total c => (digitValue? c).map (10 * total + ·)) 0

/-- Why a text is no number of the wanted range. -/
inductive Fault where
  | empty
  /-- A character is no digit, or a sign stands alone. -/
  | invalidDigit
  | tooLarge
  | tooSmall
deriving DecidableEq

/-- The wording of a fault. -/
def Fault.message : Fault → String
  | .empty => "cannot parse integer from empty string"
  | .invalidDigit => "invalid digit found in string"
  | .tooLarge => "number too large to fit in target type"
  | .tooSmall => "number too small to fit in target type"

/-- Reads digits onto a running total, which may not pass the limit. -/
def magnitude (limit : Nat) (beyond : Fault) : Nat → List Char → Except Fault Nat
  | total, [] => .ok total
  | total, c :: rest =>
    match digitValue? c with
    | none => .error .invalidDigit
    | some d =>
      if 10 * total + d ≤ limit then magnitude limit beyond (10 * total + d) rest
      else .error beyond

/-- Reads a number between zero and the limit; a plus sign may stand before it. -/
def readNat (limit : Nat) : List Char → Except Fault Nat
  | [] => .error .empty
  | ['+'] => .error .invalidDigit
  | '+' :: rest => magnitude limit .tooLarge 0 rest
  | chars => magnitude limit .tooLarge 0 chars

/-- Reads a 64-bit natural number. -/
def readUInt64 (text : String) : Except Fault UInt64 :=
  (readNat ((1 <<< 64) - 1) text.toList).map UInt64.ofNat

/-- Reads a 64-bit integer. -/
def readInt64 (text : String) : Except Fault Int64 :=
  match text.toList with
  | ['-'] => .error .invalidDigit
  | '-' :: rest => (magnitude (1 <<< 63) .tooSmall 0 rest).map fun n => Int64.ofInt (-n)
  | chars => (readNat ((1 <<< 63) - 1) chars).map fun n => Int64.ofInt n

end OfflineSigner.Decimal

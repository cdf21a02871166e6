import OfflineSigner.Json.Value
import OfflineSigner.Text.Hex

/-!
# Reading JSON text

A text is read when it holds exactly one value, with blanks allowed around every part. Numbers
without a fraction and an exponent are integers if they fit 64 bits, and so is a negative number
down to -2^63 except the negative zero. Of the digits of any other number as many count as fit 64
bits; the remaining ones only scale it, and a number beyond the largest double is refused. Texts
may hold every character but the controls below the space, the quote and the backslash, or escapes;
two escapes may stand for the halves of one character, and half of a character alone is refused.
-/

namespace OfflineSigner.Json

/-- Drops the blanks before the next part. -/
def skipBlanks (cs : List Char) : List Char :=
  cs.dropWhile fun c => c == ' ' || c == '\n' || c == '\t' || c == '\r'

/-- Reads the four digits of a code unit. -/
def readUnit : List Char → Option (Nat × List Char)
  | a :: b :: c :: d :: rest => do
    let a ← Hex.digitValue? a.toNat
    let b ← Hex.digitValue? b.toNat
    let c ← Hex.digitValue? c.toNat
    let d ← Hex.digitValue? d.toNat
    some (4096 * a + 256 * b + 16 * c + d, rest)
  | _ => none

/-- Reads the character of a numbered escape, whose first code unit is known. -/
def readScalar (unit : Nat) (rest : List Char) : Option (Char × List Char) :=
  if 0xd800 ≤ unit ∧ unit < 0xdc00 then
    match rest with
    | '\\' :: 'u' :: rest => do
      let (low, rest) ← readUnit rest
      if 0xdc00 ≤ low ∧ low < 0xe000 then
        some (Char.ofNat (0x10000 + (unit - 0xd800) * 0x400 + (low - 0xdc00)), rest)
      else none
    | _ => none
  else if 0xdc00 ≤ unit ∧ unit < 0xe000 then none
  else some (Char.ofNat unit, rest)

/-- Reads one character of a text, escaped or not. -/
def readChar : List Char → Option (Char × List Char)
  | '\\' :: 'u' :: rest => do
    let (unit, rest) ← readUnit rest
    readScalar unit rest
  | '\\' :: '"' :: rest => some ('"', rest)
  | '\\' :: '\\' :: rest => some ('\\', rest)
  | '\\' :: '/' :: rest => some ('/', rest)
  | '\\' :: 'b' :: rest => some ('\x08', rest)
  | '\\' :: 'f' :: rest => some ('\x0c', rest)
  | '\\' :: 'n' :: rest => some ('\n', rest)
  | '\\' :: 'r' :: rest => some ('\r', rest)
  | '\\' :: 't' :: rest => some ('\t', rest)
  | '\\' :: _ => none
  | '"' :: _ => none
  | c :: rest => if c.toNat < 0x20 then none else some (c, rest)
  | [] => none

/-- Reads the characters of a text up to its closing quote. -/
def readChars : Nat → List Char → Option (List Char × List Char)
  | _, '"' :: rest => some ([], rest)
  | 0, _ => none
  | fuel + 1, cs => do
    let (c, rest) ← readChar cs
    let (tail, rest) ← readChars fuel rest
    some (c :: tail, rest)

/-- Reads a text whose opening quote has been read. -/
def readText (cs : List Char) : Option (String × List Char) :=
  (readChars cs.length cs).map fun (chars, rest) => (String.ofList chars, rest)

/-- The digits at the front and what follows them. -/
def spanDigits (cs : List Char) : List Char × List Char :=
  (cs.takeWhile Char.isDigit, cs.dropWhile Char.isDigit)

/-- The number that some digits stand for, from a total on. -/
def digitsValue (total : Nat) (digits : List Char) : Nat :=
  digits.foldl (fun total c => 10 * total + (c.toNat - 48)) total

/-- Takes digits as long as the total fits 64 bits; the second number counts those left over. -/
def takeSignificand : Nat → List Char → Nat × Nat
  | total, [] => (total, 0)
  | total, c :: rest =>
    let next := 10 * total + (c.toNat - 48)
    if next < 1 <<< 64 then takeSignificand next rest else (total, rest.length + 1)

/-- The double `n · 10^e`, scaled in steps of at most 308 powers; none beyond the largest. -/
def scaleTen : Nat → Float → Int → Option Float
  | 0, x, _ => some x
  | fuel + 1, x, e =>
    if e.natAbs ≤ 308 then
      let power := Float.ofScientific 1 false e.natAbs
      let scaled := if 0 ≤ e then x * power else x / power
      if scaled.isInf then none else some scaled
    else if x == 0 then some x
    else if 0 ≤ e then none
    else scaleTen fuel (x / Float.ofScientific 1 false 308) (e + 308)

/-- The double of the digits before and after the point and the power of ten after them. -/
def doubleOf (negative : Bool) (whole decimals : List Char) (power : Int) : Option Json := do
  let (total, beyond) := takeSignificand 0 whole
  let (total, power) :=
    if 0 < beyond then (total, power + beyond)
    else
      let (total, unused) := takeSignificand total decimals
      (total, power - (decimals.length - unused : Nat))
  let x ← scaleTen 8 total.toUInt64.toFloat power
  some (.double (.ofFloat (if negative then -x else x)))

/-- Reads the digits after the point, if there is one. -/
def readDecimals : List Char → Option (List Char × List Char)
  | '.' :: rest =>
    let (digits, rest) := spanDigits rest
    if digits.isEmpty then none else some (digits, rest)
  | cs => some ([], cs)

/-- Reads the digits of a power of ten. -/
def readPowerDigits (negative : Bool) (cs : List Char) : Option (Int × List Char) :=
  let (digits, rest) := spanDigits cs
  if digits.isEmpty then none
  else
    let power : Nat := digitsValue 0 digits
    some (if negative then -(power : Int) else power, rest)

/-- Reads the power of ten, if there is one. -/
def readPower : List Char → Option (Option Int × List Char)
  | 'e' :: rest | 'E' :: rest => do
    let (power, rest) ← match rest with
      | '+' :: rest => readPowerDigits false rest
      | '-' :: rest => readPowerDigits true rest
      | rest => readPowerDigits false rest
    some (some power, rest)
  | cs => some (none, cs)

/-- Reads a number whose sign has been read. -/
def readUnsigned (negative : Bool) (cs : List Char) : Option (Json × List Char) := do
  let (whole, rest) := spanDigits cs
  if whole.isEmpty || (whole.head? == some '0' && 1 < whole.length) then none
  else
    let (decimals, rest) ← readDecimals rest
    let (power, rest) ← readPower rest
    let n := digitsValue 0 whole
    if decimals.isEmpty && power.isNone && !negative && n < 1 <<< 64 then
      some (.integer n, rest)
    else if decimals.isEmpty && power.isNone && negative && 0 < n && n ≤ 1 <<< 63 then
      some (.integer (-n), rest)
    else
      let value ← doubleOf negative whole decimals (power.getD 0)
      some (value, rest)

/-- Reads a number. -/
def readNumber : List Char → Option (Json × List Char)
  | '-' :: rest => readUnsigned true rest
  | cs => readUnsigned false cs

mutual

/-- Reads a value and the blanks before it. -/
def readValue : Nat → List Char → Option (Json × List Char)
  | 0, _ => none
  | fuel + 1, cs =>
    match skipBlanks cs with
    | 'n' :: 'u' :: 'l' :: 'l' :: rest => some (.null, rest)
    | 't' :: 'r' :: 'u' :: 'e' :: rest => some (.boolean true, rest)
    | 'f' :: 'a' :: 'l' :: 's' :: 'e' :: rest => some (.boolean false, rest)
    | '"' :: rest => (readText rest).map fun (text, rest) => (.string text, rest)
    | '[' :: rest =>
      match skipBlanks rest with
      | ']' :: rest => some (.array [], rest)
      | rest => do
        let (item, rest) ← readValue fuel rest
        let (items, rest) ← readItems fuel rest
        some (.array (item :: items), rest)
    | '{' :: rest =>
      match skipBlanks rest with
      | '}' :: rest => some (.object [], rest)
      | rest => do
        let (member, rest) ← readMember fuel rest
        let (members, rest) ← readMembers fuel rest
        some (.object (member :: members), rest)
    | rest => readNumber rest

/-- Reads the items after the first and the closing bracket. -/
def readItems : Nat → List Char → Option (List Json × List Char)
  | 0, _ => none
  | fuel + 1, cs =>
    match skipBlanks cs with
    | ']' :: rest => some ([], rest)
    | ',' :: rest => do
      let (item, rest) ← readValue fuel rest
      let (items, rest) ← readItems fuel rest
      some (item :: items, rest)
    | _ => none

/-- Reads a name, a colon and a value. -/
def readMember : Nat → List Char → Option ((String × Json) × List Char)
  | 0, _ => none
  | fuel + 1, cs =>
    match skipBlanks cs with
    | '"' :: rest => do
      let (name, rest) ← readText rest
      match skipBlanks rest with
      | ':' :: rest => do
        let (value, rest) ← readValue fuel rest
        some ((name, value), rest)
      | _ => none
    | _ => none

/-- Reads the members after the first and the closing brace. -/
def readMembers : Nat → List Char → Option (List (String × Json) × List Char)
  | 0, _ => none
  | fuel + 1, cs =>
    match skipBlanks cs with
    | '}' :: rest => some ([], rest)
    | ',' :: rest => do
      let (member, rest) ← readMember fuel rest
      let (members, rest) ← readMembers fuel rest
      some (member :: members, rest)
    | _ => none

end

/-- The value that a text holds; none when it is no JSON text. -/
def parse? (text : String) : Option Json :=
  match readValue (2 * text.toList.length + 2) text.toList with
  | some (value, rest) => if (skipBlanks rest).isEmpty then some value else none
  | none => none

end OfflineSigner.Json

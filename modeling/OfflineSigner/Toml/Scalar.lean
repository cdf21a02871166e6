import OfflineSigner.Text.Decimal
import OfflineSigner.Toml.Text
import OfflineSigner.Toml.Value

/-!
# Numbers, dates and times in TOML

An integer is decimal with an optional sign, or has one of the marks for sixteen, eight and two and
then no sign; a decimal one has no leading zeros. Underscores may stand between digits. A float has
a point or a power of ten, or is a word; one that is too large for a double is refused. The parts of
dates and times have fixed widths and ranges.
-/

namespace OfflineSigner.Toml

/-- Reads more digits of a number, where an underscore has to be followed by a digit. -/
def readMoreDigits (isDigit : Char → Bool) : List Char → Option (List Char × List Char)
  | '_' :: c :: rest =>
    if isDigit c then (readMoreDigits isDigit rest).map fun (tail, rest) => (c :: tail, rest)
    else none
  | '_' :: [] => none
  | c :: rest =>
    if isDigit c then (readMoreDigits isDigit rest).map fun (tail, rest) => (c :: tail, rest)
    else some ([], c :: rest)
  | [] => some ([], [])

/-- Reads one digit or more, with underscores between them. -/
def readDigits (isDigit : Char → Bool) : List Char → Option (List Char × List Char)
  | c :: rest =>
    if isDigit c then (readMoreDigits isDigit rest).map fun (tail, rest) => (c :: tail, rest)
    else none
  | [] => none

/-- Reads the digits of a number without leading zeros. -/
def readWhole : List Char → Option (List Char × List Char)
  | '0' :: rest => some (['0'], rest)
  | cs => readDigits Char.isDigit cs

/-- The number of some digits in a base. -/
def valueIn (base : Nat) (digits : List Char) : Nat :=
  digits.foldl (fun total c => base * total + (Hex.digitValue? c.toNat).getD 0) 0

/-- Whether a character is a digit of a base of up to sixteen. -/
def isDigitIn (base : Nat) (c : Char) : Bool :=
  (Hex.digitValue? c.toNat).any (· < base)

/-- Reads an integer in a base, after its mark. -/
def readMarked (base : Nat) (cs : List Char) : Option (Value × List Char) := do
  let (digits, rest) ← readDigits (isDigitIn base) cs
  let n := valueIn base digits
  if n < 1 <<< 63 then some (.integer n, rest) else none

/-- Reads a sign, if there is one. -/
def readSign : List Char → Bool × List Char
  | '+' :: rest => (false, rest)
  | '-' :: rest => (true, rest)
  | cs => (false, cs)

/-- Whether a decimal `n · 10^e` is beyond the range of doubles. -/
def isBeyondDouble (n : Nat) (e : Int) : Bool :=
  let places : Int := (Decimal.digits n).length + e
  if n = 0 ∨ places < 300 then false
  else if 400 < places then true
  else
    let limit := (1 <<< 1024) - (1 <<< 970)
    if 0 ≤ e then limit ≤ n * Nat.pow 10 e.toNat else limit * Nat.pow 10 (-e).toNat ≤ n

/-- Reads the power of ten of a float. -/
def readFloatPower (cs : List Char) : Option (Int × List Char) := do
  let (negative, rest) := readSign cs
  let (digits, rest) ← readDigits Char.isDigit rest
  let power : Int := valueIn 10 digits
  some (if negative then -power else power, rest)

/-- The float of the characters read, unless it is too large; only a negative one may be. -/
def floatOf (negative : Bool) (whole decimals : List Char) (power : Int)
    (rest : List Char) : Option (Value × List Char) :=
  let n := valueIn 10 (whole ++ decimals)
  if !negative && isBeyondDouble n (power - decimals.length) then none
  else
    let spelling := String.ofList (whole ++ '.' :: decimals) ++ "e" ++ Decimal.ofInt power
    some (.float (if negative then "-" ++ spelling else spelling), rest)

/-- Reads a number that is no date and has no mark. -/
def readDecimal (cs : List Char) : Option (Value × List Char) := do
  let (negative, unsigned) := readSign cs
  match unsigned with
  | 'i' :: 'n' :: 'f' :: rest => some (.float (if negative then "-inf" else "inf"), rest)
  | 'n' :: 'a' :: 'n' :: rest => some (.float "nan", rest)
  | _ =>
    let (whole, rest) ← readWhole unsigned
    match rest with
    | '.' :: rest => do
      let (decimals, rest) ← readDigits Char.isDigit rest
      match rest with
      | 'e' :: rest | 'E' :: rest => do
        let (power, rest) ← readFloatPower rest
        floatOf negative whole decimals power rest
      | rest => floatOf negative whole decimals 0 rest
    | 'e' :: rest | 'E' :: rest => do
      let (power, rest) ← readFloatPower rest
      floatOf negative whole [] power rest
    | rest =>
      let n : Int := valueIn 10 whole
      let signed := if negative then -n else n
      if -(1 <<< 63) ≤ signed ∧ signed < 1 <<< 63 then some (.integer signed, rest) else none

/-- Reads a part of a date or a time: a fixed number of digits within a range. -/
def readPart (width low high : Nat) (cs : List Char) : Option (Nat × List Char) :=
  let digits := cs.take width
  if digits.length = width ∧ digits.all Char.isDigit then
    let n := valueIn 10 digits
    if low ≤ n ∧ n ≤ high then some (n, cs.drop width) else none
  else none

/-- Reads a given character. -/
def readMark (mark : Char) : List Char → Option (List Char)
  | c :: rest => if c == mark then some rest else none
  | [] => none

/-- The number of days of a month. -/
def daysOfMonth (year month : Nat) : Nat :=
  if month = 2 then
    if year % 4 = 0 ∧ (year % 100 ≠ 0 ∨ year % 400 = 0) then 29 else 28
  else if month = 4 ∨ month = 6 ∨ month = 9 ∨ month = 11 then 30
  else 31

/-- Reads a date. -/
def readDate (cs : List Char) : Option (List Char) := do
  let (year, rest) ← readPart 4 0 9999 cs
  let (month, rest) ← readPart 2 1 12 (← readMark '-' rest)
  let (_, rest) ← readPart 2 1 (daysOfMonth year month) (← readMark '-' rest)
  some rest

/-- Reads the part of a second, if there is one. -/
def readSecondPart : List Char → List Char
  | '.' :: c :: rest => if c.isDigit then rest.dropWhile Char.isDigit else '.' :: c :: rest
  | cs => cs

/-- Reads a time of day. -/
def readTime (cs : List Char) : Option (List Char) := do
  let (_, rest) ← readPart 2 0 23 cs
  let (_, rest) ← readPart 2 0 59 (← readMark ':' rest)
  let (_, rest) ← readPart 2 0 60 (← readMark ':' rest)
  some (readSecondPart rest)

/-- Reads the distance from universal time, if there is one. -/
def readOffset : List Char → Option (List Char)
  | 'Z' :: rest | 'z' :: rest => some rest
  | '+' :: rest | '-' :: rest => do
    let (_, rest) ← readPart 2 0 23 rest
    let (_, rest) ← readPart 2 0 59 (← readMark ':' rest)
    some rest
  | cs => some cs

/-- Reads the time after a date, if there is one. -/
def readTimeAfterDate : List Char → Option (List Char)
  | c :: h :: m :: ':' :: rest =>
    if (c == 'T' || c == 't' || c == ' ') && h.isDigit && m.isDigit then do
      readOffset (← readTime (h :: m :: ':' :: rest))
    else some (c :: h :: m :: ':' :: rest)
  | cs => some cs

/-- The characters before what follows, as a date or a time. -/
def dateTimeOf (cs rest : List Char) : Value :=
  .dateTime (String.ofList (cs.take (cs.length - rest.length)))

/-- Reads a number, a date or a time. -/
def readNumber (cs : List Char) : Option (Value × List Char) :=
  match cs with
  | '0' :: 'x' :: rest => readMarked 16 rest
  | '0' :: 'o' :: rest => readMarked 8 rest
  | '0' :: 'b' :: rest => readMarked 2 rest
  | a :: b :: ':' :: _ =>
    if a.isDigit && b.isDigit then (readTime cs).map fun rest => (dateTimeOf cs rest, rest)
    else readDecimal cs
  | a :: b :: c :: d :: '-' :: _ =>
    if a.isDigit && b.isDigit && c.isDigit && d.isDigit then do
      let rest ← readTimeAfterDate (← readDate cs)
      some (dateTimeOf cs rest, rest)
    else readDecimal cs
  | _ => readDecimal cs

end OfflineSigner.Toml

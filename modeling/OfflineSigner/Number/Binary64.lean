import OfflineSigner.Text.Decimal

/-!
# Binary floating-point numbers and their shortest text

A finite double is a sign and a magnitude `m · 2^q`. Its text has the fewest decimal digits that
read back as the same double and, of those, the digits nearest to its value; of two that are equally
near, those of the even number. Magnitudes from 0.00001 up to sixteen digits before the point are
written out with at least one digit on each side of the point; all others have one digit before the
point and a signed exponent.
-/

namespace OfflineSigner

/-- A double, held as its 64 bits. -/
structure Binary64 where
  /-- Sign, exponent and fraction, from the highest bit down. -/
  bits : UInt64
deriving DecidableEq

namespace Binary64

/-- The double of a computed value. -/
def ofFloat (x : Float) : Binary64 :=
  ⟨x.toBits⟩

/-- Whether the sign bit is set. -/
def isNegative (x : Binary64) : Bool :=
  x.bits.toNat >>> 63 == 1

/-- The biased exponent. -/
def exponentField (x : Binary64) : Nat :=
  (x.bits.toNat >>> 52) % (1 <<< 11)

/-- The fraction without its hidden bit. -/
def fraction (x : Binary64) : Nat :=
  x.bits.toNat % (1 <<< 52)

/-- The integer `m` of the magnitude `m · 2^q`. -/
def significand (x : Binary64) : Nat :=
  if x.exponentField = 0 then x.fraction else x.fraction + (1 <<< 52)

/-- The exponent `q` of the magnitude `m · 2^q`. -/
def exponent (x : Binary64) : Int :=
  (max x.exponentField 1 : Nat) - 1075

/-- A fraction of two natural numbers. -/
structure Ratio where
  above : Nat
  below : Nat

/-- The fraction `n · base^e`. -/
def Ratio.scaled (n base : Nat) (e : Int) : Ratio :=
  if 0 ≤ e then ⟨n * Nat.pow base e.toNat, 1⟩ else ⟨n, Nat.pow base (-e).toNat⟩

/-- Whether the first fraction is below the second. -/
def Ratio.lt (a b : Ratio) : Bool :=
  a.above * b.below < b.above * a.below

/-- Whether the first fraction is at most the second. -/
def Ratio.le (a b : Ratio) : Bool :=
  a.above * b.below ≤ b.above * a.below

/-- The magnitude of a finite double. -/
def magnitude (x : Binary64) : Ratio :=
  .scaled x.significand 2 x.exponent

/-- The halfway points between a finite double and its two neighbours. -/
def bounds (x : Binary64) : Ratio × Ratio :=
  let m := x.significand
  let low :=
    if x.fraction = 0 ∧ 1 < x.exponentField then Ratio.scaled (4 * m - 1) 2 (x.exponent - 2)
    else Ratio.scaled (2 * m - 1) 2 (x.exponent - 1)
  (low, .scaled (2 * m + 1) 2 (x.exponent - 1))

/-- Whether a decimal `n · 10^e` rounds to the double; the halfway points do when `m` is even. -/
def isNearest (x : Binary64) (n : Nat) (e : Int) : Bool :=
  let value := Ratio.scaled n 10 e
  let (low, high) := x.bounds
  if x.significand % 2 = 0 then low.le value && value.le high else low.lt value && value.lt high

/-- The power of ten of the first digit of a positive fraction, searched downwards. -/
def leadingPower (value : Ratio) : Nat → Int → Int
  | 0, e => e
  | fuel + 1, e => if (Ratio.scaled 1 10 e).le value then e else leadingPower value fuel (e - 1)

/-- The closest multiples of `10^e` below and above a fraction, the nearer one first and the even one
of two that are equally near. -/
def neighbours (value : Ratio) (e : Int) : List Nat :=
  let unit := Ratio.scaled 1 10 e
  let step := value.below * unit.above
  let whole := value.above * unit.below / step
  let rest := value.above * unit.below % step
  if 2 * rest < step ∨ (2 * rest = step ∧ whole % 2 = 0) then [whole, whole + 1]
  else [whole + 1, whole]

/-- The first grid of decimals, from the given number of digits on, that holds a text. -/
def shortestFrom (x : Binary64) (lead : Int) : Nat → Nat → Nat × Int
  | 0, count => ((neighbours x.magnitude (lead - count)).headD 0, lead - count)
  | fuel + 1, count =>
    match (neighbours x.magnitude (lead - count)).find? (x.isNearest · (lead - count)) with
    | some n => (n, lead - count)
    | none => shortestFrom x lead fuel (count + 1)

/-- The shortest decimal `n · 10^e` that reads back as a finite double above zero. -/
def shortest (x : Binary64) : Nat × Int :=
  shortestFrom x (leadingPower x.magnitude 700 310) 17 0

/-- Removes the zeros at the end of some digits. -/
def withoutTrailingZeros (digits : List Char) : List Char :=
  (digits.reverse.dropWhile (· == '0')).reverse

/-- A text whose first digit stands for `10^e`. -/
def layout (digits : List Char) (e : Int) : String :=
  if 0 ≤ e ∧ e ≤ 15 then
    let width := e.toNat + 1
    let whole := digits.take width ++ List.replicate (width - digits.length) '0'
    let rest := digits.drop width
    String.ofList (whole ++ '.' :: if rest.isEmpty then ['0'] else rest)
  else if -5 ≤ e ∧ e < 0 then
    String.ofList ('0' :: '.' :: List.replicate ((-e).toNat - 1) '0' ++ digits)
  else
    let mantissa := match digits with
      | first :: second :: rest => first :: '.' :: second :: rest
      | short => short
    String.ofList (mantissa ++ 'e' :: (if e < 0 then '-' else '+') :: Decimal.digits e.natAbs)

/-- The shortest text of a finite double. -/
def text (x : Binary64) : String :=
  let unsigned :=
    if x.significand = 0 then "0.0"
    else
      let (n, e) := x.shortest
      let digits := Decimal.digits n
      layout (withoutTrailingZeros digits) (e + digits.length - 1)
  if x.isNegative then "-" ++ unsigned else unsigned

end Binary64

end OfflineSigner

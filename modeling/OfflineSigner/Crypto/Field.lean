import OfflineSigner.Crypto.Power

/-!
# The prime field of the curve

Integers modulo `2^255 - 19`, with inverses and square roots by powers. A square root is computed
for every square; of the two roots the even one is given.
-/

namespace OfflineSigner

/-- The number of elements of the field. -/
def fieldPrime : Nat := (1 <<< 255) - 19

instance : @NeZero Nat Zero.ofOfNat0 fieldPrime := ⟨by decide⟩

/-- An integer modulo `2^255 - 19`. -/
abbrev FieldElement := Fin fieldPrime

namespace FieldElement

/-- The element of a natural number. -/
def ofNat (n : Nat) : FieldElement :=
  Fin.ofNat fieldPrime n

/-- A power of an element. -/
def pow (x : FieldElement) (n : Nat) : FieldElement :=
  power (· * ·) 1 x n

/-- The inverse of an element other than zero. -/
def inverse (x : FieldElement) : FieldElement :=
  pow x (fieldPrime - 2)

/-- A square root of minus one. -/
def rootOfMinusOne : FieldElement :=
  pow 2 ((fieldPrime - 1) / 4)

/-- Whether the number of an element is odd. -/
def isOdd (x : FieldElement) : Bool :=
  x.val % 2 == 1

/-- The even square root of an element; none when it is no square. -/
def sqrt? (a : FieldElement) : Option FieldElement :=
  let candidate := pow a ((fieldPrime + 3) / 8)
  let root := if candidate * candidate = a then candidate else candidate * rootOfMinusOne
  if root * root = a then some (if isOdd root then -root else root) else none

end FieldElement

end OfflineSigner

import Mathlib.FieldTheory.Finite.Basic
import Mathlib.NumberTheory.LegendreSymbol.Basic
import Mathlib.Tactic.LinearCombination
import OfflineSigner.Proofs.Crypto.Primes

/-!
# The computed field is the field of prime size

The operations on field elements are those of the field `ZMod fieldPrime`, division and square roots
by powers included. Minus one has a square root in it, and an element and its negation differ in
parity unless they are zero. So a square has one even root, and that is the root which is computed.
-/

namespace OfflineSigner.FieldElement

/-- An element as one of the field. -/
def toField (x : FieldElement) : ZMod fieldPrime :=
  (x.val : ZMod fieldPrime)

/-- Different elements stay different. -/
theorem toField_injective : Function.Injective toField := by
  intro x y h
  have hmod := (ZMod.natCast_eq_natCast_iff' x.val y.val fieldPrime).mp h
  rw [Nat.mod_eq_of_lt x.isLt, Nat.mod_eq_of_lt y.isLt] at hmod
  exact Fin.ext hmod

/-- A number is taken to its remainder. -/
@[simp] theorem toField_ofNat (n : Nat) : toField (ofNat n) = n :=
  ZMod.natCast_mod n fieldPrime

/-- Zero is taken to zero. -/
@[simp] theorem toField_zero : toField 0 = 0 :=
  Nat.cast_zero

/-- One is taken to one. -/
@[simp] theorem toField_one : toField 1 = 1 :=
  Nat.cast_one

/-- Two is taken to two. -/
@[simp] theorem toField_two : toField 2 = 2 :=
  (toField_ofNat 2).trans Nat.cast_ofNat

/-- Sums are taken to sums. -/
@[simp] theorem toField_add (x y : FieldElement) : toField (x + y) = toField x + toField y := by
  rw [toField, Fin.val_add, ZMod.natCast_mod, Nat.cast_add]
  rfl

/-- Products are taken to products. -/
@[simp] theorem toField_mul (x y : FieldElement) : toField (x * y) = toField x * toField y := by
  rw [toField, Fin.val_mul, ZMod.natCast_mod, Nat.cast_mul]
  rfl

/-- Differences are taken to differences. -/
@[simp] theorem toField_sub (x y : FieldElement) : toField (x - y) = toField x - toField y := by
  rw [toField, Fin.sub_def, ZMod.natCast_mod, Nat.cast_add, Nat.cast_sub y.isLt.le,
    ZMod.natCast_self, zero_sub, neg_add_eq_sub]
  rfl

/-- Negations are taken to negations. -/
@[simp] theorem toField_neg (x : FieldElement) : toField (-x) = -toField x := by
  rw [toField, Fin.val_neg', ZMod.natCast_mod, Nat.cast_sub x.isLt.le, ZMod.natCast_self, zero_sub]
  rfl

/-- Powers are taken to powers. -/
@[simp] theorem toField_pow (x : FieldElement) (n : Nat) : toField (pow x n) = toField x ^ n := by
  refine power_induction (motive := fun k a => toField a = toField x ^ k) ?_ ?_ ?_ n
  · simp
  · simp
  · intro k l a b ha hb
    rw [toField_mul, ha, hb, pow_add]

/-- The power that inverts: Fermat's little theorem. -/
@[simp] theorem toField_inverse (x : FieldElement) : toField x.inverse = (toField x)⁻¹ := by
  rw [inverse, toField_pow]
  by_cases hzero : toField x = 0
  · rw [hzero, inv_zero, zero_pow (by decide)]
  · refine eq_inv_of_mul_eq_one_left ?_
    rw [← pow_succ, show fieldPrime - 2 + 1 = fieldPrime - 1 by decide,
      ZMod.pow_card_sub_one_eq_one hzero]

/-- Two is not zero. -/
theorem two_ne_zero : (2 : ZMod fieldPrime) ≠ 0 := by
  have h : (2 : FieldElement) ≠ 0 := by decide
  exact fun hzero => h (toField_injective (by rw [toField_two, toField_zero, hzero]))

/-- The root of minus one is one: two is no square. -/
theorem rootOfMinusOne_mul_self : toField rootOfMinusOne * toField rootOfMinusOne = -1 := by
  have hhalf : (fieldPrime - 1) / 4 + (fieldPrime - 1) / 4 = (fieldPrime - 1) / 2 := by decide
  have hpower : powerModulo fieldPrime 255 2 ((fieldPrime - 1) / 2) = fieldPrime - 1 := by
    decide +kernel
  rw [powerModulo_eq_iff (by decide) (by decide), Nat.cast_sub (by decide)] at hpower
  rw [rootOfMinusOne, toField_pow, ← pow_add, hhalf, toField_two]
  simpa using hpower

/-! ## Parity -/

/-- Of an element other than zero and its negation one is odd. -/
theorem isOdd_neg {x : FieldElement} (h : x ≠ 0) : (-x).isOdd = !x.isOdd := by
  have hodd : fieldPrime % 2 = 1 := by decide
  have hlt : x.val < fieldPrime := x.isLt
  have hval : (-x).val = fieldPrime - x.val := by rw [Fin.val_neg, if_neg h]
  rw [isOdd, isOdd, hval, Bool.eq_not, ne_eq, Bool.beq_eq_decide_eq, Bool.beq_eq_decide_eq]
  grind

/-- A square and the parity determine the root. -/
theorem eq_of_mul_self_eq {x y : FieldElement} (h : x * x = y * y) (hparity : x.isOdd = y.isOdd) :
    x = y := by
  have hfield := congrArg toField h
  rw [toField_mul, toField_mul, mul_self_eq_mul_self_iff, ← toField_neg] at hfield
  rcases hfield with hsame | hopposite
  · exact toField_injective hsame
  · obtain rfl := toField_injective hopposite
    by_cases hzero : y = 0
    · rw [hzero]
      decide
    · rw [isOdd_neg hzero] at hparity
      exact absurd hparity (Bool.not_ne_self _)

/-- A negation has the same square. -/
theorem neg_mul_self (x : FieldElement) : -x * -x = x * x :=
  toField_injective (by rw [toField_mul, toField_mul, toField_neg, neg_mul_neg])

/-- The even one of an element and its negation. -/
def even (x : FieldElement) : FieldElement :=
  if isOdd x then -x else x

/-- It is even. -/
theorem isOdd_even (x : FieldElement) : x.even.isOdd = false := by
  unfold even
  split
  · next hodd =>
    have hzero : x ≠ 0 := by
      rintro rfl
      exact absurd hodd (by decide)
    rw [isOdd_neg hzero, hodd, Bool.not_true]
  · next heven => exact Bool.eq_false_iff.mpr heven

/-- It has the square of the element. -/
theorem even_mul_self (x : FieldElement) : x.even * x.even = x * x := by
  unfold even
  split
  · exact neg_mul_self x
  · rfl

/-- An element is its even one with its own parity put back. -/
theorem signed_even (x : FieldElement) : (if x.isOdd = true then -x.even else x.even) = x := by
  unfold even
  split
  · apply toField_injective
    rw [toField_neg, toField_neg, neg_neg]
  · rfl

/-! ## Square roots -/

/-- The root of an element when it is a square. -/
def rootCandidate (a : FieldElement) : FieldElement :=
  let candidate := pow a ((fieldPrime + 3) / 8)
  if candidate * candidate = a then candidate else candidate * rootOfMinusOne

/-- A root is given when the candidate turns out to be one. -/
theorem sqrt?_eq (a : FieldElement) :
    a.sqrt? = if a.rootCandidate * a.rootCandidate = a then some a.rootCandidate.even else none :=
  rfl

/-- The power that is tried first has the right square up to its sign, which is the Legendre symbol
of a root. -/
theorem exists_sign_of_mul_self (r : FieldElement) :
    ∃ e : ZMod fieldPrime, (e = 1 ∨ e = -1) ∧
      toField (pow (r * r) ((fieldPrime + 3) / 8)) * toField (pow (r * r) ((fieldPrime + 3) / 8)) =
        e * (toField r * toField r) := by
  by_cases hzero : toField r = 0
  · refine ⟨1, Or.inl rfl, ?_⟩
    rw [toField_pow, toField_mul, hzero, mul_zero, zero_pow (by decide), mul_zero, mul_zero]
  · refine ⟨toField r ^ (fieldPrime / 2), ZMod.pow_div_two_eq_neg_one_or_one fieldPrime hzero, ?_⟩
    have hexponent : 2 * ((fieldPrime + 3) / 8 + (fieldPrime + 3) / 8) = fieldPrime / 2 + 2 := by
      decide
    rw [toField_pow, toField_mul, ← pow_add, ← pow_two, ← pow_mul, hexponent, pow_add]

/-- Every square has the root that is computed. -/
theorem rootCandidate_mul_self (r : FieldElement) :
    (r * r).rootCandidate * (r * r).rootCandidate = r * r := by
  obtain ⟨e, hsign, hsquare⟩ := exists_sign_of_mul_self r
  unfold rootCandidate
  dsimp only
  split
  · assumption
  · next hother =>
    apply toField_injective
    rcases hsign with rfl | rfl
    · rw [one_mul, ← toField_mul, ← toField_mul] at hsquare
      exact absurd (toField_injective hsquare) hother
    · simp only [toField_mul] at hsquare ⊢
      linear_combination hsquare * toField rootOfMinusOne * toField rootOfMinusOne -
        toField r * toField r * rootOfMinusOne_mul_self

/-- The root that is computed is the even one. -/
theorem sqrt?_eq_some_iff {a r : FieldElement} :
    a.sqrt? = some r ↔ r * r = a ∧ r.isOdd = false := by
  rw [sqrt?_eq]
  constructor
  · intro h
    split at h
    · next hroot =>
      obtain rfl := Option.some.inj h
      exact ⟨(even_mul_self _).trans hroot, isOdd_even _⟩
    · contradiction
  · rintro ⟨rfl, heven⟩
    have hroot := rootCandidate_mul_self r
    rw [if_pos hroot, Option.some.injEq]
    exact eq_of_mul_self_eq ((even_mul_self _).trans hroot) (by rw [isOdd_even, heven])

end OfflineSigner.FieldElement

import Mathlib.Algebra.Field.Basic
import Mathlib.Algebra.Group.Even
import Mathlib.Tactic.FieldSimp
import Mathlib.Tactic.LinearCombination
import Mathlib.Tactic.Ring

/-!
# The group of a twisted Edwards curve

The points with `-x² + y² = 1 + d·x²·y²` over a field in which minus one is a square and `d` is not
form a commutative group under one addition law without exceptions: its denominators never vanish.
Associativity is an identity of fractions. Its two sides, multiplied out, differ by a combination of
the equations of the three points, and the coefficients are given where it is proved.
-/

namespace OfflineSigner

/-- A twisted Edwards curve whose addition law is complete. -/
structure EdwardsCurve (F : Type) [Field F] where
  d : F
  /-- A square root of minus one. -/
  root : F
  root_mul_self : root * root = -1
  not_isSquare_d : ¬ IsSquare d
  two_ne_zero : (2 : F) ≠ 0

namespace EdwardsCurve

variable {F : Type} [Field F] {E : EdwardsCurve F}

/-- A point of the curve. -/
@[ext] structure Point (E : EdwardsCurve F) where
  x : F
  y : F
  equation : -x ^ 2 + y ^ 2 = 1 + E.d * x ^ 2 * y ^ 2

/-- The denominator of `x²` as a fraction in `y²`. -/
theorem d_mul_sq_add_one_ne_zero (E : EdwardsCurve F) (y : F) : E.d * y ^ 2 + 1 ≠ 0 := by
  intro h
  have hy : y ≠ 0 := fun hzero => by simp [hzero] at h
  refine E.not_isSquare_d ⟨E.root / y, ?_⟩
  rw [div_mul_div_comm, E.root_mul_self, eq_div_iff (mul_ne_zero hy hy)]
  linear_combination h

namespace Point

/-- Two points with the same `y` have the same `x` up to its sign. -/
theorem x_sq_eq_of_y_eq {P Q : Point E} (h : P.y = Q.y) : P.x ^ 2 = Q.x ^ 2 := by
  refine mul_right_cancel₀ (d_mul_sq_add_one_ne_zero E Q.y) ?_
  have hP := P.equation
  rw [h] at hP
  linear_combination Q.equation - hP

/-! ## The denominators -/

/-- The product by which the denominators of the addition law differ from one. -/
def cross (P Q : Point E) : F :=
  E.d * P.x * P.y * Q.x * Q.y

/-- The product is the same for the points in either order. -/
theorem cross_comm (P Q : Point E) : P.cross Q = Q.cross P := by
  unfold cross
  ring

/-- Were the product one or minus one, then `i * x + y` would vanish at the second point for a root
`i` of minus one, since otherwise `d` would be a square. -/
theorem root_mul_x_add_y_eq_zero {P Q : Point E} (h : P.cross Q ^ 2 = 1) {i : F}
    (hi : i * i = -1) : i * Q.x + Q.y = 0 := by
  by_contra hline
  have hxy : P.x * P.y ≠ 0 := by
    intro hzero
    rw [cross, mul_assoc E.d, hzero] at h
    simp at h
  have hdenominator : P.x * P.y * (i * Q.x + Q.y) ≠ 0 := mul_ne_zero hxy hline
  have hsquare : (i * P.x + P.cross Q * P.y) ^ 2 = E.d * (P.x * P.y * (i * Q.x + Q.y)) ^ 2 := by
    unfold cross at h ⊢
    linear_combination (P.x ^ 2 - E.d * P.x ^ 2 * P.y ^ 2 * Q.x ^ 2) * hi +
      (P.y ^ 2 - 1) * h + P.equation - E.d * P.x ^ 2 * P.y ^ 2 * Q.equation
  refine E.not_isSquare_d ⟨(i * P.x + P.cross Q * P.y) / (P.x * P.y * (i * Q.x + Q.y)), ?_⟩
  rw [div_mul_div_comm, eq_div_iff (mul_ne_zero hdenominator hdenominator)]
  linear_combination -hsquare

/-- The product is neither one nor minus one. -/
theorem cross_sq_ne_one (P Q : Point E) : P.cross Q ^ 2 ≠ 1 := by
  intro h
  have hplus := root_mul_x_add_y_eq_zero h E.root_mul_self
  have hminus := root_mul_x_add_y_eq_zero h ((neg_mul_neg E.root E.root).trans E.root_mul_self)
  have hdouble : 2 * Q.y = 0 := by linear_combination hplus + hminus
  have hy : Q.y = 0 := (mul_eq_zero.mp hdouble).resolve_left E.two_ne_zero
  rw [cross, hy] at h
  simp at h

/-- So the first denominator does not vanish. -/
theorem one_add_cross_ne_zero (P Q : Point E) : 1 + P.cross Q ≠ 0 := fun h =>
  cross_sq_ne_one P Q (by linear_combination (P.cross Q - 1) * h)

/-- Nor does the second one. -/
theorem one_sub_cross_ne_zero (P Q : Point E) : 1 - P.cross Q ≠ 0 := fun h =>
  cross_sq_ne_one P Q (by linear_combination (-P.cross Q - 1) * h)

/-! ## Addition -/

/-- The numerator of the `x` of a sum. -/
def sumX (P Q : Point E) : F :=
  P.x * Q.y + P.y * Q.x

/-- The numerator of the `y` of a sum. -/
def sumY (P Q : Point E) : F :=
  P.y * Q.y + P.x * Q.x

/-- A sum lies on the curve. -/
theorem equation_add (P Q : Point E) :
    -(P.sumX Q / (1 + P.cross Q)) ^ 2 + (P.sumY Q / (1 - P.cross Q)) ^ 2 =
      1 + E.d * (P.sumX Q / (1 + P.cross Q)) ^ 2 * (P.sumY Q / (1 - P.cross Q)) ^ 2 := by
  have hplus := one_add_cross_ne_zero P Q
  have hminus := one_sub_cross_ne_zero P Q
  field_simp
  unfold sumX sumY cross
  linear_combination ((1 + (E.d * P.x * P.y * Q.x * Q.y) ^ 2) * (Q.y ^ 2 - Q.x ^ 2) -
      E.d * Q.x ^ 2 * Q.y ^ 2 * (P.y ^ 2 - P.x ^ 2 + 1 + E.d * P.x ^ 2 * P.y ^ 2)) * P.equation +
    ((1 + (E.d * P.x * P.y * Q.x * Q.y) ^ 2) * (1 + E.d * P.x ^ 2 * P.y ^ 2) -
      E.d * P.x ^ 2 * P.y ^ 2 * (Q.y ^ 2 - Q.x ^ 2 + 1 + E.d * Q.x ^ 2 * Q.y ^ 2)) * Q.equation

/-- The sum of two points, by one formula for all of them. -/
instance : Add (Point E) where
  add P Q := ⟨P.sumX Q / (1 + P.cross Q), P.sumY Q / (1 - P.cross Q), equation_add P Q⟩

/-- The neutral point. -/
instance : Zero (Point E) where
  zero := ⟨0, 1, by ring⟩

/-- The point on the other side of the axis. -/
instance : Neg (Point E) where
  neg P := ⟨-P.x, P.y, by linear_combination P.equation⟩

/-- The `x` of a sum. -/
@[simp] theorem x_add (P Q : Point E) : (P + Q).x = P.sumX Q / (1 + P.cross Q) := rfl

/-- The `y` of a sum. -/
@[simp] theorem y_add (P Q : Point E) : (P + Q).y = P.sumY Q / (1 - P.cross Q) := rfl

/-- The `x` of the neutral point. -/
@[simp] theorem x_zero : (0 : Point E).x = 0 := rfl

/-- The `y` of the neutral point. -/
@[simp] theorem y_zero : (0 : Point E).y = 1 := rfl

/-- A negation changes the sign of `x`. -/
@[simp] theorem x_neg (P : Point E) : (-P).x = -P.x := rfl

/-- It leaves `y` as it is. -/
@[simp] theorem y_neg (P : Point E) : (-P).y = P.y := rfl

/-- The summands may change places. -/
protected theorem add_comm (P Q : Point E) : P + Q = Q + P := by
  ext
  · rw [x_add, x_add, cross_comm, sumX, sumX]
    ring
  · rw [y_add, y_add, cross_comm, sumY, sumY]
    ring

/-- The neutral point adds nothing. -/
protected theorem zero_add (P : Point E) : 0 + P = P := by
  ext <;> simp [sumX, sumY, cross]

/-- A point and its negation add up to the neutral point. -/
protected theorem neg_add_cancel (P : Point E) : -P + P = 0 := by
  ext
  · have hnumerator : (-P).sumX P = 0 := by
      rw [sumX, x_neg, y_neg]
      ring
    rw [x_add, hnumerator, zero_div, x_zero]
  · have hnumerator : (-P).sumY P = 1 - (-P).cross P := by
      rw [sumY, cross, x_neg, y_neg]
      linear_combination P.equation
    rw [y_add, hnumerator, div_self (one_sub_cross_ne_zero _ _), y_zero]

/-! ## Associativity

A sum whose first summand is a sum has nested fractions. They are cleared by the product of the two
denominators of the inner sum. -/

/-- The product of the denominators of a sum. -/
def denominators (P Q : Point E) : F :=
  (1 + P.cross Q) * (1 - P.cross Q)

/-- It does not vanish, as neither of them does. -/
theorem denominators_ne_zero (P Q : Point E) : P.denominators Q ≠ 0 :=
  mul_ne_zero (one_add_cross_ne_zero P Q) (one_sub_cross_ne_zero P Q)

/-- It clears the fractions in the product for a sum and a third point. -/
theorem denominators_mul_cross (P Q R : Point E) :
    P.denominators Q * (P + Q).cross R = E.d * P.sumX Q * P.sumY Q * R.x * R.y := by
  have hplus := one_add_cross_ne_zero P Q
  have hminus := one_sub_cross_ne_zero P Q
  change (1 + P.cross Q) * (1 - P.cross Q) * (E.d * (P.sumX Q / (1 + P.cross Q)) *
    (P.sumY Q / (1 - P.cross Q)) * R.x * R.y) = _
  field_simp

/-- It clears those in the numerator of `x`. -/
theorem denominators_mul_sumX (P Q R : Point E) :
    P.denominators Q * (P + Q).sumX R =
      P.sumX Q * (1 - P.cross Q) * R.y + P.sumY Q * (1 + P.cross Q) * R.x := by
  have hplus := one_add_cross_ne_zero P Q
  have hminus := one_sub_cross_ne_zero P Q
  change (1 + P.cross Q) * (1 - P.cross Q) * (P.sumX Q / (1 + P.cross Q) * R.y +
    P.sumY Q / (1 - P.cross Q) * R.x) = _
  field_simp

/-- It clears those in the numerator of `y`. -/
theorem denominators_mul_sumY (P Q R : Point E) :
    P.denominators Q * (P + Q).sumY R =
      P.sumY Q * (1 + P.cross Q) * R.y + P.sumX Q * (1 - P.cross Q) * R.x := by
  have hplus := one_add_cross_ne_zero P Q
  have hminus := one_sub_cross_ne_zero P Q
  change (1 + P.cross Q) * (1 - P.cross Q) * (P.sumY Q / (1 - P.cross Q) * R.y +
    P.sumX Q / (1 + P.cross Q) * R.x) = _
  field_simp

/-- Two fractions are compared after each of them is expanded. -/
theorem div_eq_div_of_expanded {a b p q k l : F} (hp : p ≠ 0) (hq : q ≠ 0) (hk : k ≠ 0)
    (hl : l ≠ 0) (h : k * a * (l * q) = l * b * (k * p)) : a / p = b / q := by
  rw [div_eq_div_iff hp hq]
  refine mul_left_cancel₀ (mul_ne_zero hk hl) ?_
  linear_combination h

/-- Three points have one sum. Cleared of its fractions, each coordinate is a combination of the
three equations of the curve. -/
protected theorem add_assoc (P Q R : Point E) : P + Q + R = P + (Q + R) := by
  rw [Point.add_comm P (Q + R)]
  ext
  · refine div_eq_div_of_expanded (one_add_cross_ne_zero _ _) (one_add_cross_ne_zero _ _)
      (denominators_ne_zero P Q) (denominators_ne_zero Q R) ?_
    rw [mul_one_add, mul_one_add, denominators_mul_cross, denominators_mul_cross,
      denominators_mul_sumX, denominators_mul_sumX]
    unfold denominators cross sumX sumY
    linear_combination -E.d * Q.x * Q.y * (
      (R.x * R.y * (P.y * Q.y * R.x + P.y * Q.x * R.y - P.x * Q.y * R.y - P.x * Q.x * R.x) +
        Q.x * Q.y * (1 + R.x ^ 2 - R.y ^ 2) *
          (P.y * Q.y * R.x + P.y * Q.x * R.y + P.x * Q.y * R.y + P.x * Q.x * R.x)) * P.equation +
      E.d * P.x * P.y * R.x * R.y *
        (R.x * R.y * (P.y * Q.x * R.y + P.x * Q.y * R.y - P.y * Q.y * R.x - P.x * Q.x * R.x) +
          P.x * P.y * (P.x * Q.y * R.y + P.x * Q.x * R.x - P.y * Q.y * R.x - P.y * Q.x * R.y)) *
          Q.equation +
      (P.x * P.y * (P.y * Q.y * R.x - P.y * Q.x * R.y - P.x * Q.y * R.y + P.x * Q.x * R.x) -
        Q.x * Q.y * (1 + P.x ^ 2 - P.y ^ 2) *
          (P.y * Q.y * R.x + P.y * Q.x * R.y + P.x * Q.y * R.y + P.x * Q.x * R.x)) * R.equation)
  · refine div_eq_div_of_expanded (one_sub_cross_ne_zero _ _) (one_sub_cross_ne_zero _ _)
      (denominators_ne_zero P Q) (denominators_ne_zero Q R) ?_
    rw [mul_one_sub, mul_one_sub, denominators_mul_cross, denominators_mul_cross,
      denominators_mul_sumY, denominators_mul_sumY]
    unfold denominators cross sumX sumY
    linear_combination -E.d * Q.x * Q.y * (
      (R.x * R.y * (P.x * Q.y * R.x + P.x * Q.x * R.y - P.y * Q.y * R.y - P.y * Q.x * R.x) +
        Q.x * Q.y * (1 + R.x ^ 2 - R.y ^ 2) *
          (P.y * Q.y * R.y + P.y * Q.x * R.x + P.x * Q.y * R.x + P.x * Q.x * R.y)) * P.equation +
      E.d * P.x * P.y * R.x * R.y *
        (R.x * R.y * (P.y * Q.x * R.x + P.x * Q.y * R.x - P.y * Q.y * R.y - P.x * Q.x * R.y) +
          P.x * P.y * (P.y * Q.y * R.y + P.y * Q.x * R.x - P.x * Q.y * R.x - P.x * Q.x * R.y)) *
          Q.equation +
      (P.x * P.y * (P.y * Q.y * R.y - P.y * Q.x * R.x - P.x * Q.y * R.x + P.x * Q.x * R.y) -
        Q.x * Q.y * (1 + P.x ^ 2 - P.y ^ 2) *
          (P.y * Q.y * R.y + P.y * Q.x * R.x + P.x * Q.y * R.x + P.x * Q.x * R.y)) * R.equation)

/-- The points are a commutative group. -/
instance : AddCommGroup (Point E) where
  add_assoc := Point.add_assoc
  zero_add := Point.zero_add
  add_zero P := by rw [Point.add_comm, Point.zero_add]
  nsmul := nsmulRec
  zsmul := zsmulRec
  neg_add_cancel := Point.neg_add_cancel
  add_comm := Point.add_comm

end Point

end EdwardsCurve

end OfflineSigner

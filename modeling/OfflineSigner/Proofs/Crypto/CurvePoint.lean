import OfflineSigner.Proofs.Bytes.Words
import OfflineSigner.Proofs.Crypto.EdwardsCurve
import OfflineSigner.Proofs.Crypto.Field

/-!
# Computed points are points of the curve

Extended coordinates with a `z` other than zero represent the point whose coordinates they are after
division by `z`. Sums, negations and multiples of what represents points represent the sums,
negations and multiples of these, the 32 bytes belong to the point and not to the coordinates, and
what is read from 32 bytes represents a point: the point whose bytes they are, if they are those of
one.
-/

namespace OfflineSigner

open FieldElement

/-- The curve of the computed points. -/
def edwards25519 : EdwardsCurve (ZMod fieldPrime) where
  d := toField CurvePoint.d
  root := toField rootOfMinusOne
  root_mul_self := rootOfMinusOne_mul_self
  not_isSquare_d := by
    have hpower : powerModulo fieldPrime 255 CurvePoint.d.val (fieldPrime / 2) ≠ 1 := by
      decide +kernel
    have hzero : toField CurvePoint.d ≠ 0 := fun h =>
      absurd (toField_injective (h.trans toField_zero.symm)) (by decide)
    rwa [ne_eq, powerModulo_eq_iff (by decide) (by decide), Nat.cast_one, ← toField,
      ← ZMod.euler_criterion fieldPrime hzero] at hpower
  two_ne_zero := two_ne_zero

namespace CurvePoint

/-! ## The number in the 32 bytes -/

/-- The number of the two coordinates: `y` with the parity of `x` in the top bit. -/
def packed (x y : FieldElement) : Nat :=
  y.val + if x.isOdd then 1 <<< 255 else 0

/-- A coordinate leaves the top bit free. -/
theorem val_lt (y : FieldElement) : y.val < 1 <<< 255 :=
  y.isLt.trans (by decide)

/-- It fits in 32 bytes. -/
theorem packed_lt (x y : FieldElement) : packed x y < 256 ^ 32 := by
  have hbits : (256 : Nat) ^ 32 = 1 <<< 255 + 1 <<< 255 := by decide
  have hy := val_lt y
  unfold packed
  split <;> omega

/-- Below the top bit it is `y`. -/
theorem packed_mod (x y : FieldElement) : packed x y % (1 <<< 255) = y.val := by
  have hy := val_lt y
  unfold packed
  split
  · rw [Nat.add_mod_right, Nat.mod_eq_of_lt hy]
  · rw [Nat.add_zero, Nat.mod_eq_of_lt hy]

/-- The top bit is the parity of `x`. -/
theorem le_packed_iff (x y : FieldElement) : 1 <<< 255 ≤ packed x y ↔ x.isOdd = true := by
  have hy := val_lt y
  unfold packed
  split <;> simp_all

/-- It tells `y` and the parity of `x`. -/
theorem packed_inj {x y x' y' : FieldElement} (h : packed x y = packed x' y') :
    y = y' ∧ x.isOdd = x'.isOdd := by
  refine ⟨Fin.ext ?_, ?_⟩
  · rw [← packed_mod x y, h, packed_mod]
  · rw [Bool.eq_iff_iff, ← le_packed_iff x y, h, le_packed_iff]

/-- It determines the point of the curve that has the coordinates. -/
theorem eq_of_packed_eq {P Q : edwards25519.Point} {x y x' y' : FieldElement}
    (hP : toField x = P.x ∧ toField y = P.y) (hQ : toField x' = Q.x ∧ toField y' = Q.y)
    (h : packed x y = packed x' y') : P = Q := by
  obtain ⟨hy, hparity⟩ := packed_inj h
  have hPQ : P.y = Q.y := by rw [← hP.2, ← hQ.2, hy]
  have hsquare := EdwardsCurve.Point.x_sq_eq_of_y_eq hPQ
  rw [← hP.1, ← hQ.1, pow_two, pow_two, ← toField_mul, ← toField_mul] at hsquare
  have hx := eq_of_mul_self_eq (toField_injective hsquare) hparity
  exact EdwardsCurve.Point.ext (by rw [← hP.1, ← hQ.1, hx]) hPQ

/-- The number is read back from the bytes. -/
theorem decode_encode (p : CurvePoint) :
    LittleEndian.decode p.encode.toList = packed (p.x * p.z.inverse) (p.y * p.z.inverse) :=
  LittleEndian.decode_encode 32 _ (packed_lt _ _)

/-! ## Coordinates and points -/

/-- The coordinates are those of a point. -/
structure Represents (p : CurvePoint) (P : edwards25519.Point) : Prop where
  z_ne_zero : toField p.z ≠ 0
  x_eq : toField p.x = P.x * toField p.z
  y_eq : toField p.y = P.y * toField p.z
  t_eq : toField p.t = P.x * P.y * toField p.z

/-- The neutral point. -/
theorem represents_neutral : neutral.Represents 0 where
  z_ne_zero := by simp [neutral]
  x_eq := by simp [neutral]
  y_eq := by simp [neutral]
  t_eq := by simp [neutral]

/-- The two coordinates of a point. -/
theorem represents_ofAffine {x y : FieldElement} {P : edwards25519.Point} (hx : toField x = P.x)
    (hy : toField y = P.y) : (ofAffine x y).Represents P where
  z_ne_zero := by simp [ofAffine]
  x_eq := by simp [ofAffine, hx]
  y_eq := by simp [ofAffine, hy]
  t_eq := by simp [ofAffine, hx, hy]

namespace Represents

variable {p q : CurvePoint} {P Q : edwards25519.Point}

/-- The other side of the axis. -/
theorem negate (hp : p.Represents P) : p.negate.Represents (-P) where
  z_ne_zero := hp.z_ne_zero
  x_eq := by
    rw [CurvePoint.negate, toField_neg, hp.x_eq, EdwardsCurve.Point.x_neg, neg_mul]
  y_eq := hp.y_eq
  t_eq := by
    rw [CurvePoint.negate, toField_neg, hp.t_eq, EdwardsCurve.Point.x_neg,
      EdwardsCurve.Point.y_neg]
    ring

/-- The extended coordinates of a sum before any of them is divided by another. -/
theorem add_coordinates (hp : p.Represents P) (hq : q.Represents Q) :
    toField (p.add q).x =
        (2 * (toField p.z * toField q.z)) ^ 2 * (P.sumX Q * (1 - P.cross Q)) ∧
      toField (p.add q).y =
        (2 * (toField p.z * toField q.z)) ^ 2 * (P.sumY Q * (1 + P.cross Q)) ∧
      toField (p.add q).z =
        (2 * (toField p.z * toField q.z)) ^ 2 * ((1 + P.cross Q) * (1 - P.cross Q)) ∧
      toField (p.add q).t = (2 * (toField p.z * toField q.z)) ^ 2 * (P.sumX Q * P.sumY Q) := by
  have hd : edwards25519.d = toField d := rfl
  simp only [CurvePoint.add, toField_mul, toField_sub, toField_add, toField_two, hp.x_eq, hp.y_eq,
    hp.t_eq, hq.x_eq, hq.y_eq, hq.t_eq, EdwardsCurve.Point.cross, EdwardsCurve.Point.sumX,
    EdwardsCurve.Point.sumY, hd]
  refine ⟨?_, ?_, ?_, ?_⟩ <;> ring

/-- A sum. -/
theorem add (hp : p.Represents P) (hq : q.Represents Q) : (p.add q).Represents (P + Q) := by
  obtain ⟨hx, hy, hz, ht⟩ := add_coordinates hp hq
  have hplus := P.one_add_cross_ne_zero Q
  have hminus := P.one_sub_cross_ne_zero Q
  have hfactor : 2 * (toField p.z * toField q.z) ≠ 0 :=
    mul_ne_zero two_ne_zero (mul_ne_zero hp.z_ne_zero hq.z_ne_zero)
  refine ⟨?_, ?_, ?_, ?_⟩
  · rw [hz]
    exact mul_ne_zero (pow_ne_zero 2 hfactor) (mul_ne_zero hplus hminus)
  · rw [hx, hz, EdwardsCurve.Point.x_add]
    field_simp
  · rw [hy, hz, EdwardsCurve.Point.y_add]
    field_simp
  · rw [ht, hz, EdwardsCurve.Point.x_add, EdwardsCurve.Point.y_add]
    field_simp

/-- A multiple. -/
theorem scale (hp : p.Represents P) (n : Nat) : (p.scale n).Represents (n • P) := by
  refine power_induction (motive := fun k (a : CurvePoint) => a.Represents (k • P)) ?_ ?_ ?_ n
  · rw [zero_smul]
    exact represents_neutral
  · rwa [one_smul]
  · intro k l a b ha hb
    rw [add_smul]
    exact ha.add hb

/-! ## The bytes of a point -/

/-- The coordinates after division by `z`. -/
theorem affine (hp : p.Represents P) :
    toField (p.x * p.z.inverse) = P.x ∧ toField (p.y * p.z.inverse) = P.y := by
  have hz := hp.z_ne_zero
  rw [toField_mul, toField_mul, toField_inverse, hp.x_eq, hp.y_eq]
  exact ⟨mul_inv_cancel_right₀ hz P.x, mul_inv_cancel_right₀ hz P.y⟩

/-- The 32 bytes are those of the point. -/
theorem encode_eq_iff (hp : p.Represents P) (hq : q.Represents Q) :
    p.encode = q.encode ↔ P = Q := by
  constructor
  · intro h
    have hnumber := congrArg (LittleEndian.decode ·.toList) h
    simp only [decode_encode] at hnumber
    exact eq_of_packed_eq hp.affine hq.affine hnumber
  · rintro rfl
    have hx := toField_injective (hp.affine.1.trans hq.affine.1.symm)
    have hy := toField_injective (hp.affine.2.trans hq.affine.2.symm)
    rw [encode, encode]
    simp only [hx, hy]

end Represents

/-- Coordinates of a point. -/
def ofPoint (P : edwards25519.Point) : CurvePoint :=
  ofAffine (FieldElement.ofNat P.x.val) (FieldElement.ofNat P.y.val)

/-- They are coordinates of the point. -/
theorem represents_ofPoint (P : edwards25519.Point) : (ofPoint P).Represents P :=
  represents_ofAffine (by simp) (by simp)

/-- The 32 bytes of a point. -/
def pointBytes (P : edwards25519.Point) : FixedBytes 32 :=
  (ofPoint P).encode

/-- Different points have different bytes. -/
theorem pointBytes_injective : Function.Injective pointBytes := fun P Q h =>
  ((represents_ofPoint P).encode_eq_iff (represents_ofPoint Q)).mp h

/-- So their lists of bytes tell them apart as well. -/
theorem toList_pointBytes_inj {P Q : edwards25519.Point} :
    (pointBytes P).toList = (pointBytes Q).toList ↔ P = Q :=
  ⟨fun h => pointBytes_injective (FixedBytes.ext h), fun h => h ▸ rfl⟩

/-- All coordinates of a point have its bytes. -/
theorem Represents.encode_eq {p : CurvePoint} {P : edwards25519.Point} (hp : p.Represents P) :
    p.encode = pointBytes P :=
  (hp.encode_eq_iff (represents_ofPoint P)).mpr rfl

/-- The bytes of the neutral point. -/
theorem toList_pointBytes_zero : (pointBytes 0).toList = 1 :: List.replicate 31 0 := by
  have hx : neutral.x * neutral.z.inverse = 0 :=
    toField_injective (represents_neutral.affine.1.trans toField_zero.symm)
  have hy : neutral.y * neutral.z.inverse = 1 :=
    toField_injective (represents_neutral.affine.2.trans toField_one.symm)
  rw [← represents_neutral.encode_eq, encode]
  simp only [hx, hy]
  decide

/-! ## The equation as it is computed -/

/-- A closed instance of the equation is checked by computing both sides. -/
theorem equation_of_mul_self {x y : FieldElement}
    (h : y * y - x * x = 1 + d * (x * x) * (y * y)) :
    -toField x ^ 2 + toField y ^ 2 = 1 + edwards25519.d * toField x ^ 2 * toField y ^ 2 := by
  have hd : edwards25519.d = toField d := rfl
  have hfield := congrArg toField h
  simp only [toField_mul, toField_sub, toField_add, toField_one] at hfield
  rw [hd]
  linear_combination hfield

/-- The roots of the quotient that is computed from `y` are the `x` of the points with that `y`. -/
theorem mul_self_eq_quotient_iff (x y : FieldElement) :
    x * x = (y * y - 1) * (d * (y * y) + 1).inverse ↔
      -toField x ^ 2 + toField y ^ 2 = 1 + edwards25519.d * toField x ^ 2 * toField y ^ 2 := by
  have hd : edwards25519.d = toField d := rfl
  have hdenominator := edwards25519.d_mul_sq_add_one_ne_zero (toField y)
  rw [← toField_injective.eq_iff]
  simp only [toField_mul, toField_sub, toField_add, toField_one, toField_inverse]
  rw [← pow_two, ← pow_two, ← hd, ← div_eq_mul_inv, eq_div_iff hdenominator]
  constructor
  · intro h
    linear_combination -h
  · intro h
    linear_combination -h

/-- What is read from 32 bytes represents a point, whose `y` is the number in the lower bits. -/
theorem exists_represents_of_decode? {bytes : FixedBytes 32} {p : CurvePoint}
    (h : decode? bytes = some p) :
    ∃ P, p.Represents P ∧ P.y = (LittleEndian.decode bytes.toList % (1 <<< 255) : Nat) := by
  obtain ⟨r, hr, rfl⟩ := Option.map_eq_some_iff.mp h
  obtain ⟨hroot, -⟩ := sqrt?_eq_some_iff.mp hr
  refine ⟨⟨_, _, (mul_self_eq_quotient_iff _ _).mp ?_⟩, represents_ofAffine rfl rfl,
    toField_ofNat _⟩
  rw [← hroot]
  split
  · exact neg_mul_self r
  · rfl

/-- The bytes of a point are read as coordinates of the point. -/
theorem Represents.exists_decode?_encode {p : CurvePoint} {P : edwards25519.Point}
    (hp : p.Represents P) : ∃ q, decode? p.encode = some q ∧ q.Represents P := by
  obtain ⟨hx, hy⟩ := hp.affine
  have hnumber := decode_encode p
  generalize p.x * p.z.inverse = x at hx hnumber
  generalize p.y * p.z.inverse = y at hy hnumber
  have hlow : FieldElement.ofNat (packed x y % (1 <<< 255)) = y := by
    rw [packed_mod]
    exact toField_injective (toField_ofNat y.val)
  -- The even root is read, and the top bit restores the sign of `x`.
  have hsquare : x * x = (y * y - 1) * (d * (y * y) + 1).inverse := by
    rw [mul_self_eq_quotient_iff, hx, hy]
    exact P.equation
  have hroot := sqrt?_eq_some_iff.mpr ⟨(even_mul_self x).trans hsquare, isOdd_even x⟩
  refine ⟨ofAffine x y, ?_, represents_ofAffine hx hy⟩
  rw [decode?]
  simp only [hnumber, hlow, hroot, Option.map_some, le_packed_iff, signed_even]

/-- Bytes are read whenever some point has the number in the lower bits for its `y`. -/
theorem isSome_decode? {bytes : FixedBytes 32} {P : edwards25519.Point}
    (h : P.y = (LittleEndian.decode bytes.toList % (1 <<< 255) : Nat)) :
    (decode? bytes).isSome := by
  have hx : toField (FieldElement.ofNat P.x.val) = P.x := by simp
  have hsquare := (mul_self_eq_quotient_iff (FieldElement.ofNat P.x.val)
    (FieldElement.ofNat (LittleEndian.decode bytes.toList % (1 <<< 255)))).mpr (by
      rw [hx, toField_ofNat, ← h]
      exact P.equation)
  have hroot := sqrt?_eq_some_iff.mpr ⟨(even_mul_self _).trans hsquare, isOdd_even _⟩
  rw [decode?]
  simp only [hroot, Option.map_some, Option.isSome_some]

end CurvePoint

end OfflineSigner

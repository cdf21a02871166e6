import Mathlib.GroupTheory.OrderOfElement
import OfflineSigner.Proofs.Crypto.CurvePoint

/-!
# How many points there are

The base point has the prime order and another point has the order eight, so the number of points is
a multiple of eight times the prime; and 32 bytes have room for less than two of these. A point that
a positive number below the prime takes to the neutral point is therefore already taken there by
eight.
-/

namespace OfflineSigner

open FieldElement

namespace CurvePoint

namespace Represents

variable {p : CurvePoint} {P : edwards25519.Point}

/-- Coordinates of the neutral point are known by sight. -/
theorem eq_zero_iff (hp : p.Represents P) : P = 0 ↔ p.x = 0 ∧ p.y = p.z := by
  rw [← toField_injective.eq_iff, ← toField_injective.eq_iff (a := p.y), hp.x_eq, hp.y_eq,
    toField_zero, mul_eq_zero_iff_right hp.z_ne_zero, mul_eq_right₀ hp.z_ne_zero,
    EdwardsCurve.Point.ext_iff]
  rfl

/-- Whether a multiple is the neutral point is found by computing it. -/
theorem nsmul_eq_zero_iff (hp : p.Represents P) {n : Nat} (hn : n < 2 ^ 256) :
    n • P = 0 ↔ (powerWithin CurvePoint.add neutral 256 p n).x = 0 ∧
      (powerWithin CurvePoint.add neutral 256 p n).y =
        (powerWithin CurvePoint.add neutral 256 p n).z := by
  rw [powerWithin_eq_power hn]
  exact (hp.scale n).eq_zero_iff

end Represents

/-! ## The base point and a point of order eight -/

/-- The base point as a point of the curve. -/
def basePoint : edwards25519.Point :=
  ⟨toField base.x, toField base.y, equation_of_mul_self (by decide +kernel)⟩

/-- Its coordinates are those of the signature scheme. -/
theorem represents_base : base.Represents basePoint :=
  represents_ofAffine rfl rfl

/-- The base point has the order that is given for it. -/
theorem addOrderOf_basePoint : addOrderOf basePoint = Ed25519.order := by
  have : Fact Ed25519.order.Prime := ⟨Ed25519.prime_order⟩
  refine addOrderOf_eq_prime ?_ fun hzero => ?_
  · exact (represents_base.nsmul_eq_zero_iff (by decide)).mpr (by decide +kernel)
  · exact absurd (represents_base.eq_zero_iff.mp hzero) (by decide)

/-- Coordinates of a point that doubling takes to the neutral point in three steps. -/
def torsion : CurvePoint :=
  ofAffine 14399317868200118260347934320527232580618823971194345261214217575416788799818
    2707385501144840649318225287225658788936804267575313519463743609750303402022

/-- The point of order eight. -/
def torsionPoint : edwards25519.Point :=
  ⟨toField torsion.x, toField torsion.y, equation_of_mul_self (by decide +kernel)⟩

/-- These are its coordinates. -/
theorem represents_torsion : torsion.Represents torsionPoint :=
  represents_ofAffine rfl rfl

/-- It has order eight, as four times it is not the neutral point but eight times it is. -/
theorem addOrderOf_torsionPoint : addOrderOf torsionPoint = 8 := by
  refine addOrderOf_eq_prime_pow (p := 2) (n := 2) (fun hzero => ?_) ?_
  · exact absurd ((represents_torsion.nsmul_eq_zero_iff (by decide)).mp hzero) (by decide +kernel)
  · exact (represents_torsion.nsmul_eq_zero_iff (by decide)).mpr (by decide +kernel)

end CurvePoint

/-! ## Counting -/

open CurvePoint

/-- Bytes of one length are told apart by their number. -/
theorem FixedBytes.eq_of_decode_eq {n : Nat} {a b : FixedBytes n}
    (h : LittleEndian.decode a.toList = LittleEndian.decode b.toList) : a = b := by
  have ha := LittleEndian.encode_decode a.toList
  have hb := LittleEndian.encode_decode b.toList
  rw [a.length_toList] at ha
  rw [b.length_toList, ← h] at hb
  exact FixedBytes.ext (ha.symm.trans hb)

/-- A number of 32 bytes for every point. -/
def pointNumber (P : edwards25519.Point) : Fin (256 ^ 32) :=
  ⟨LittleEndian.decode (pointBytes P).toList, by
    simpa only [FixedBytes.length_toList] using LittleEndian.decode_lt (pointBytes P).toList⟩

/-- Different points have different numbers. -/
theorem pointNumber_injective : Function.Injective pointNumber := by
  intro P Q h
  have hnumber : LittleEndian.decode (pointBytes P).toList =
      LittleEndian.decode (pointBytes Q).toList := by
    simpa only [pointNumber, Fin.mk.injEq] using h
  exact pointBytes_injective (FixedBytes.eq_of_decode_eq hnumber)

/-- So there are finitely many points. -/
instance : Finite edwards25519.Point :=
  Finite.of_injective pointNumber pointNumber_injective

/-- There are eight times as many points as multiples of the base point. -/
theorem card_point : Nat.card edwards25519.Point = 8 * Ed25519.order := by
  have hcoprime : Nat.Coprime 8 Ed25519.order := by decide +kernel
  have hdvd : 8 * Ed25519.order ∣ Nat.card edwards25519.Point :=
    hcoprime.mul_dvd_of_dvd_of_dvd
      (addOrderOf_torsionPoint ▸ addOrderOf_dvd_natCard torsionPoint)
      (addOrderOf_basePoint ▸ addOrderOf_dvd_natCard basePoint)
  have hroom : Nat.card edwards25519.Point ≤ 256 ^ 32 := by
    simpa using Nat.card_le_card_of_injective pointNumber pointNumber_injective
  have hless : 256 ^ 32 < 8 * Ed25519.order * 2 := by decide
  have hpositive : 0 < Nat.card edwards25519.Point := Nat.card_pos
  obtain ⟨k, hk⟩ := hdvd
  have hlt : k < 2 := Nat.lt_of_mul_lt_mul_left (hk ▸ hroom.trans_lt hless)
  have hnonzero : k ≠ 0 := fun hzero => by simp [hk, hzero] at hpositive
  rw [hk, show k = 1 by omega, mul_one]

/-- A point whose order is no multiple of the order of the base point has small order. -/
theorem addOrderOf_dvd_eight_of_not_dvd {P : edwards25519.Point}
    (h : ¬ Ed25519.order ∣ addOrderOf P) : addOrderOf P ∣ 8 := by
  have hcoprime : Nat.Coprime (addOrderOf P) Ed25519.order := by
    rw [Nat.coprime_comm, Ed25519.prime_order.coprime_iff_not_dvd]
    exact h
  exact hcoprime.dvd_of_dvd_mul_right (card_point ▸ addOrderOf_dvd_natCard P)

/-- A point whose order divides a positive number below the order of the base point has small
order. -/
theorem addOrderOf_dvd_eight {P : edwards25519.Point} {n : Nat} (h : addOrderOf P ∣ n)
    (hpos : 0 < n) (hlt : n < Ed25519.order) : addOrderOf P ∣ 8 :=
  addOrderOf_dvd_eight_of_not_dvd fun hdvd =>
    Nat.not_le_of_lt hlt (Nat.le_of_dvd hpos (hdvd.trans h))

/-- Different numbers below the order of the base point take a point to different points, unless
the point has small order and the numbers have the same remainder by it. -/
theorem modEq_of_nsmul_eq {P : edwards25519.Point} {m n : Nat} (h : m • P = n • P)
    (hm : m < Ed25519.order) (hn : n < Ed25519.order) (hne : m ≠ n) :
    addOrderOf P ∣ 8 ∧ m ≡ n [MOD addOrderOf P] := by
  have hmod : m ≡ n [MOD addOrderOf P] := nsmul_eq_nsmul_iff_modEq.mp h
  refine ⟨?_, hmod⟩
  rcases Nat.lt_or_gt_of_ne hne with hlt | hgt
  · exact addOrderOf_dvd_eight ((Nat.modEq_iff_dvd' hlt.le).mp hmod) (by omega) (by omega)
  · exact addOrderOf_dvd_eight ((Nat.modEq_iff_dvd' hgt.le).mp hmod.symm) (by omega) (by omega)

end OfflineSigner

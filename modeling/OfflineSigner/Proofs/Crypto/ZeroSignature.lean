import OfflineSigner.Proofs.Crypto.Ed25519

/-!
# Signatures of zeros

Sixty-four zero bytes are no garbage to a check of signatures: the first half is that of a point of
order four and the second half is a response that is not too large. They pass for a message exactly
when the challenge takes the key to the other point of order four. So the order of the key is four or
eight, and no key that is a multiple of the base point lets them pass.
-/

namespace OfflineSigner

open FieldElement

namespace CurvePoint

/-- Coordinates of the point whose bytes are zeros: its `x` is the even root of minus one. -/
def quarter : CurvePoint :=
  ofAffine 19681161376707505956807079304988542015446066515923890162744021073123829784752 0

/-- The point whose bytes are zeros. -/
def quarterPoint : edwards25519.Point :=
  ⟨toField quarter.x, toField quarter.y, equation_of_mul_self (by decide +kernel)⟩

/-- These are its coordinates. -/
theorem represents_quarter : quarter.Represents quarterPoint :=
  represents_ofAffine rfl rfl

/-- It has order four, as twice it is not the neutral point but four times it is. -/
theorem addOrderOf_quarterPoint : addOrderOf quarterPoint = 4 := by
  refine addOrderOf_eq_prime_pow (p := 2) (n := 1) (fun hzero => ?_) ?_
  · exact absurd ((represents_quarter.nsmul_eq_zero_iff (by decide)).mp hzero) (by decide +kernel)
  · exact (represents_quarter.nsmul_eq_zero_iff (by decide)).mpr (by decide +kernel)

/-- Its bytes are zeros. -/
theorem toList_pointBytes_quarterPoint : (pointBytes quarterPoint).toList = List.replicate 32 0 := by
  rw [← represents_quarter.encode_eq]
  decide +kernel

/-- The bytes of the other point of order four differ in the top bit. -/
theorem toList_pointBytes_neg_quarterPoint :
    (pointBytes (-quarterPoint)).toList = List.replicate 31 0 ++ [0x80] := by
  rw [← represents_quarter.negate.encode_eq]
  decide +kernel

end CurvePoint

namespace Ed25519

open CurvePoint

/-- The signature that is all zeros. -/
def zeroSignature : FixedBytes 64 :=
  .replicate 64 0

/-- The key is that of a point which the challenge of the message takes to the point whose bytes are
zeros but for the top bit. -/
def FitsZeros (key : FixedBytes 32) (message : List UInt8) : Prop :=
  ∃ point, decode? key = some point ∧
    (point.scale (challenge key zeroSignature message)).encode.toList = List.replicate 31 0 ++ [0x80]

variable {key : FixedBytes 32} {message : List UInt8}

/-- In terms of the point of the key. -/
theorem fitsZeros_iff {point : CurvePoint} {P : edwards25519.Point}
    (hkey : decode? key = some point) (hpoint : point.Represents P) :
    FitsZeros key message ↔ challenge key zeroSignature message • P = -quarterPoint := by
  have hbytes : (point.scale (challenge key zeroSignature message)).encode.toList =
      List.replicate 31 0 ++ [0x80] ↔ challenge key zeroSignature message • P = -quarterPoint := by
    rw [← toList_pointBytes_neg_quarterPoint, (hpoint.scale _).encode_eq, toList_pointBytes_inj]
  rw [← hbytes]
  constructor
  · rintro ⟨point', hkey', h⟩
    rwa [Option.some.inj (hkey.symm.trans hkey')]
  · intro h
    exact ⟨point, hkey, h⟩

/-- The zeros pass for exactly the messages that fit. -/
theorem verify_zeroSignature_iff :
    verify key message zeroSignature = true ↔ FitsZeros key message := by
  cases hkey : decode? key with
  | none =>
    rw [verify_eq_false (Or.inl hkey), FitsZeros, hkey]
    simp
  | some point =>
    obtain ⟨P, hpoint, -⟩ := exists_represents_of_decode? hkey
    have hresponse : response zeroSignature = 0 := by decide
    have hcommitment : commitment zeroSignature = (pointBytes quarterPoint).toList := by
      rw [toList_pointBytes_quarterPoint]
      decide
    rw [verify_iff hkey hpoint (by rw [hresponse]; decide), hresponse, hcommitment, zero_smul,
      zero_add, toList_pointBytes_inj, smul_neg, neg_eq_iff_eq_neg, fitsZeros_iff hkey hpoint]

/-- The point of a key that some message fits has the order four or eight. -/
theorem FitsZeros.dvd_eight {point : CurvePoint} {P : edwards25519.Point}
    (h : FitsZeros key message) (hkey : decode? key = some point) (hpoint : point.Represents P) :
    addOrderOf P ∣ 8 ∧ ¬ addOrderOf P ∣ 2 := by
  have hmultiple := (fitsZeros_iff hkey hpoint).mp h
  have hfour : addOrderOf (challenge key zeroSignature message • P) = 4 := by
    rw [hmultiple, addOrderOf_neg, addOrderOf_quarterPoint]
  constructor
  · apply addOrderOf_dvd_eight_of_not_dvd
    intro hdvd
    -- The prime would divide four times the challenge, and so the challenge, which is smaller.
    have hzero : (4 * challenge key zeroSignature message) • P = 0 := by
      rw [mul_nsmul', ← hfour]
      exact addOrderOf_nsmul_eq_zero _
    have hprime : order ∣ 4 * challenge key zeroSignature message :=
      hdvd.trans (addOrderOf_dvd_of_nsmul_eq_zero hzero)
    rcases prime_order.dvd_mul.mp hprime with hsmall | hchallenge
    · exact absurd (Nat.le_of_dvd (by decide) hsmall) (by decide)
    · have hnone := Nat.eq_zero_of_dvd_of_lt hchallenge (challenge_lt _ _ _)
      rw [hnone, zero_nsmul, addOrderOf_zero] at hfour
      exact absurd hfour (by decide)
  · intro htwo
    have hdvd : 4 ∣ 2 := hfour ▸ (addOrderOf_smul_dvd _).trans htwo
    exact absurd hdvd (by decide)

/-- No message fits a key whose order is not four or eight. -/
theorem FitsZeros.hasOrderDividing (h : FitsZeros key message) :
    HasOrderDividing 8 key ∧ ¬ HasOrderDividing 2 key := by
  obtain ⟨point, hkey, -⟩ := id h
  obtain ⟨P, hpoint, -⟩ := exists_represents_of_decode? hkey
  rw [hasOrderDividing_iff hkey hpoint, hasOrderDividing_iff hkey hpoint]
  exact h.dvd_eight hkey hpoint

/-- No message fits the key of a multiple of the base point. -/
theorem not_fitsZeros_of_represents {point : CurvePoint} {n : Nat}
    (hkey : decode? key = some point) (hpoint : point.Represents (n • basePoint)) :
    ¬ FitsZeros key message := by
  intro h
  obtain ⟨height, htwo⟩ := h.dvd_eight hkey hpoint
  have hprime : addOrderOf (n • basePoint) ∣ order :=
    addOrderOf_basePoint ▸ addOrderOf_smul_dvd n
  have hcoprime : Nat.Coprime 8 order := by decide +kernel
  have hone : addOrderOf (n • basePoint) = 1 := Nat.eq_one_of_dvd_coprimes hcoprime height hprime
  rw [hone] at htwo
  exact htwo (one_dvd 2)

/-- Under the key that is all zeros the messages that fit are those whose challenge leaves three as
the remainder by four. -/
theorem fitsZeros_zeros_iff :
    FitsZeros (.replicate 32 0) message ↔
      challenge (.replicate 32 0) zeroSignature message % 4 = 3 := by
  obtain ⟨point, hkey, hpoint⟩ := represents_quarter.exists_decode?_encode
  have hzeros : quarter.encode = .replicate 32 0 := by
    apply FixedBytes.ext
    rw [represents_quarter.encode_eq, toList_pointBytes_quarterPoint]
    rfl
  rw [hzeros] at hkey
  rw [fitsZeros_iff hkey hpoint, eq_neg_iff_add_eq_zero, ← succ_nsmul,
    ← addOrderOf_dvd_iff_nsmul_eq_zero, addOrderOf_quarterPoint]
  omega

end Ed25519

end OfflineSigner

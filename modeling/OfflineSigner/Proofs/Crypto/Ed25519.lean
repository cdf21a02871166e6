import OfflineSigner.Proofs.Crypto.GroupOrder

/-!
# What a check of a signature decides

A check compares a point given by the signature, the key and the message with the bytes in the first
half of the signature. The message enters through one number only, the challenge, and a key and a
signature that pass with one challenge pass with exactly those others that take the key to the same
point. These are no others at all unless the key has small order.
-/

namespace OfflineSigner.Ed25519

open CurvePoint

/-- The first half of a signature, which the computed point is compared with. -/
def commitment (signature : FixedBytes 64) : List UInt8 :=
  signature.toList.take 32

/-- The second half of a signature, the multiple of the base point. -/
def response (signature : FixedBytes 64) : Nat :=
  LittleEndian.decode (signature.toList.drop 32)

/-- The multiple of the key that a check of a signature under the message computes. -/
def challenge (key : FixedBytes 32) (signature : FixedBytes 64) (message : List UInt8) : Nat :=
  hashToScalar (commitment signature ++ key.toList ++ message)

/-- A challenge is a remainder by the order of the base point. -/
theorem challenge_lt (key : FixedBytes 32) (signature : FixedBytes 64) (message : List UInt8) :
    challenge key signature message < order :=
  Nat.mod_lt _ (by decide)

/-- The check in these terms. -/
theorem verify_eq (key : FixedBytes 32) (message : List UInt8) (signature : FixedBytes 64) :
    verify key message signature =
      if order ≤ response signature then false
      else
        match decode? key with
        | none => false
        | some point =>
          ((base.scale (response signature)).add
            (point.negate.scale (challenge key signature message))).encode.toList ==
              commitment signature :=
  rfl

/-- Keys that no point has and responses that are too large fail for every message. -/
theorem verify_eq_false {key : FixedBytes 32} {signature : FixedBytes 64}
    (h : decode? key = none ∨ order ≤ response signature) (message : List UInt8) :
    verify key message signature = false := by
  rw [verify_eq]
  split
  · rfl
  · next hresponse => rw [h.resolve_right hresponse]

/-- The other checks compare a point of the curve. -/
theorem verify_iff {key : FixedBytes 32} {signature : FixedBytes 64} {point : CurvePoint}
    {P : edwards25519.Point} (hkey : decode? key = some point) (hpoint : point.Represents P)
    (hresponse : response signature < order) (message : List UInt8) :
    verify key message signature = true ↔
      (pointBytes (response signature • basePoint + challenge key signature message • -P)).toList =
        commitment signature := by
  have hsum := (represents_base.scale (response signature)).add
    (hpoint.negate.scale (challenge key signature message))
  rw [verify_eq, if_neg (Nat.not_le_of_lt hresponse), hkey, ← hsum.encode_eq]
  exact beq_iff_eq

/-- The key is that of a point which the number takes to the neutral point. -/
def HasOrderDividing (n : Nat) (key : FixedBytes 32) : Prop :=
  ∃ point, decode? key = some point ∧ (point.scale n).encode = neutral.encode

/-- For the key of a point the number is a multiple of the order of the point. -/
theorem hasOrderDividing_iff {key : FixedBytes 32} {point : CurvePoint} {P : edwards25519.Point}
    (hkey : decode? key = some point) (hpoint : point.Represents P) (n : Nat) :
    HasOrderDividing n key ↔ addOrderOf P ∣ n := by
  have hneutral := (hpoint.scale n).encode_eq_iff represents_neutral
  rw [addOrderOf_dvd_iff_nsmul_eq_zero, ← hneutral]
  constructor
  · rintro ⟨point', hkey', h⟩
    rwa [Option.some.inj (hkey.symm.trans hkey')]
  · exact fun h => ⟨point, hkey, h⟩

/-- A divisor of eight is one of four numbers. -/
theorem mem_of_dvd_eight {n : Nat} (h : n ∣ 8) : n ∈ [1, 2, 4, 8] := by
  have hle := Nat.le_of_dvd (by decide) h
  interval_cases n <;> simp_all

/-- A signature that is one of a message is also one of exactly those messages whose challenges
are the same, or are the same modulo the order of the key when this is small. -/
theorem verify_iff_of_verify {key : FixedBytes 32} {signature : FixedBytes 64}
    {message : List UInt8} (h : verify key message signature = true) (message' : List UInt8) :
    verify key message' signature = true ↔
      challenge key signature message = challenge key signature message' ∨
        ∃ n ∈ [1, 2, 4, 8], HasOrderDividing n key ∧
          challenge key signature message ≡ challenge key signature message' [MOD n] := by
  have hvalid : ¬ (decode? key = none ∨ order ≤ response signature) := fun hinvalid => by
    rw [verify_eq_false hinvalid] at h
    contradiction
  rw [not_or, Nat.not_le] at hvalid
  obtain ⟨point, hkey⟩ := Option.ne_none_iff_exists'.mp hvalid.1
  obtain ⟨P, hpoint, -⟩ := exists_represents_of_decode? hkey
  -- Both messages are held against the same commitment, so only the multiples of the key count.
  have hsame : verify key message' signature = true ↔
      challenge key signature message • P = challenge key signature message' • P := by
    rw [verify_iff hkey hpoint hvalid.2] at h ⊢
    rw [← h, toList_pointBytes_inj, add_right_inj, smul_neg, smul_neg, neg_inj, eq_comm]
  rw [hsame]
  constructor
  · intro heq
    by_cases hne : challenge key signature message = challenge key signature message'
    · exact Or.inl hne
    · obtain ⟨hsmall, hmod⟩ := modEq_of_nsmul_eq heq (challenge_lt _ _ _) (challenge_lt _ _ _) hne
      exact Or.inr ⟨addOrderOf P, mem_of_dvd_eight hsmall,
        (hasOrderDividing_iff hkey hpoint _).mpr dvd_rfl, hmod⟩
  · rintro (heq | ⟨n, -, hn, hmod⟩)
    · rw [heq]
    · exact nsmul_eq_nsmul_iff_modEq.mpr (hmod.of_dvd ((hasOrderDividing_iff hkey hpoint n).mp hn))

/-! ## The keys of the neutral point -/

/-- The keys of the neutral point are those whose lower bits are one modulo the size of the field. -/
theorem hasOrderDividing_one_iff (key : FixedBytes 32) :
    HasOrderDividing 1 key ↔
      FieldElement.ofNat (LittleEndian.decode key.toList % (1 <<< 255)) = 1 := by
  rw [← FieldElement.toField_injective.eq_iff, FieldElement.toField_ofNat,
    FieldElement.toField_one]
  constructor
  · rintro ⟨point, hkey, h⟩
    obtain ⟨P, hpoint, hy⟩ := exists_represents_of_decode? hkey
    have hone := (hasOrderDividing_iff hkey hpoint 1).mp ⟨point, hkey, h⟩
    rw [Nat.dvd_one, AddMonoid.addOrderOf_eq_one_iff] at hone
    rw [← hy, hone, EdwardsCurve.Point.y_zero]
  · intro hy
    have hzero : (0 : edwards25519.Point).y =
        (LittleEndian.decode key.toList % (1 <<< 255) : Nat) := hy.symm
    obtain ⟨point, hkey⟩ := Option.isSome_iff_exists.mp (isSome_decode? hzero)
    obtain ⟨P, hpoint, hPy⟩ := exists_represents_of_decode? hkey
    refine (hasOrderDividing_iff hkey hpoint 1).mpr ?_
    have hsame : P.y = (0 : edwards25519.Point).y := hPy.trans hy
    have hx : P.x = 0 := by simpa using EdwardsCurve.Point.x_sq_eq_of_y_eq hsame
    rw [Nat.dvd_one, AddMonoid.addOrderOf_eq_one_iff]
    exact EdwardsCurve.Point.ext hx hsame

/-- The signature with the neutral point as its commitment and zero as its response. -/
def neutralSignature : FixedBytes 64 :=
  ⟨1 :: List.replicate 63 0, by decide⟩

/-- It is one of every message under a key of the neutral point. -/
theorem verify_neutralSignature {key : FixedBytes 32} (h : HasOrderDividing 1 key)
    (message : List UInt8) : verify key message neutralSignature = true := by
  obtain ⟨point, hkey, -⟩ := id h
  obtain ⟨P, hpoint, -⟩ := exists_represents_of_decode? hkey
  rw [hasOrderDividing_iff hkey hpoint, Nat.dvd_one, AddMonoid.addOrderOf_eq_one_iff] at h
  have hresponse : response neutralSignature = 0 := by decide
  rw [verify_iff hkey hpoint (by rw [hresponse]; decide), hresponse, h, zero_smul, neg_zero,
    smul_zero, add_zero, toList_pointBytes_zero]
  decide

end OfflineSigner.Ed25519

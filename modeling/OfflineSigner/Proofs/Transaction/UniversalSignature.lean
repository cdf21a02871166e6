import OfflineSigner.Proofs.Crypto.Ed25519
import OfflineSigner.Transaction.Verification

/-!
# No signature fits all transactions of an account

A transaction enters the check of its signature through its challenge, a digest of the signed bytes.
A signature that fits one transaction of an account fits exactly those others whose challenge is the
same, or the same modulo the order of the account's key if that order is two, four or eight. So of
two transactions whose challenges are apart in this sense at least one is refused. The key of the
neutral point is the exception: every challenge takes it to the neutral point, and there is a
signature that fits whatever such an account might send.
-/

namespace OfflineSigner

open Ed25519

namespace Signature

/-- The number by which the check of a transaction multiplies the key of its sender. -/
def challenge (signature : Signature) (transaction : Transaction) : Nat :=
  Ed25519.challenge transaction.sender.bytes signature.bytes transaction.payload

/-- Two transactions have different challenges, and challenges with different remainders by the
order of the first sender's key if this is two, four or eight. -/
def TellsApart (signature : Signature) (a b : Transaction) : Prop :=
  signature.challenge a ≠ signature.challenge b ∧
    ∀ n ∈ [2, 4, 8], HasOrderDividing n a.sender.bytes →
      ¬ signature.challenge a ≡ signature.challenge b [MOD n]

end Signature

namespace Transaction

/-- A transaction is accepted exactly when the signature fits its bytes and the key of its sender. -/
theorem verify_eq_ok_iff {transaction : Transaction} {signature : Signature} :
    transaction.verify signature = .ok () ↔
      Ed25519.verify transaction.sender.bytes transaction.payload signature.bytes = true := by
  rw [verify, isSignedBy, Signature.verify]
  split <;> simp_all

/-- A transaction that is not accepted is refused for its signature, and for nothing else. -/
theorem verify_eq_error_iff {transaction : Transaction} {signature : Signature} :
    transaction.verify signature = .error .invalidSignature ↔
      transaction.verify signature ≠ .ok () := by
  unfold verify
  split <;> simp

/-- Beside a transaction that a signature fits, it fits exactly those of the same account that it
does not tell apart from it. -/
theorem verify_eq_ok_iff_not_tellsApart {a b : Transaction} {signature : Signature}
    (hsender : a.sender = b.sender) (hneutral : ¬ HasOrderDividing 1 a.sender.bytes)
    (ha : a.verify signature = .ok ()) :
    b.verify signature = .ok () ↔ ¬ signature.TellsApart a b := by
  have hverify := verify_iff_of_verify (verify_eq_ok_iff.mp ha) b.payload
  rw [verify_eq_ok_iff, ← hsender, hverify, Signature.TellsApart, Signature.challenge,
    Signature.challenge, ← hsender]
  constructor
  · rintro (hsame | ⟨n, hn, horder, hmod⟩) ⟨hdifferent, hapart⟩
    · exact hdifferent hsame
    · rcases List.mem_cons.mp hn with rfl | hn
      · exact hneutral horder
      · exact hapart n hn horder hmod
  · intro htogether
    by_contra hnone
    rw [not_or] at hnone
    exact htogether ⟨hnone.1, fun n hn horder hmod =>
      hnone.2 ⟨n, List.mem_cons_of_mem 1 hn, horder, hmod⟩⟩

/-- Under a key of the neutral point the neutral signature fits every transaction. -/
theorem verify_neutralSignature_eq_ok {transaction : Transaction}
    (h : HasOrderDividing 1 transaction.sender.bytes) :
    transaction.verify ⟨neutralSignature⟩ = .ok () :=
  verify_eq_ok_iff.mpr (verify_neutralSignature h transaction.payload)

/-- A signature that fits all transactions of an account exists for the keys of the neutral point.
For every other key, whether or not it is that of a point, no signature does: one with a response
that is too large fits none, as under a key that no point has, and otherwise one of any two
transactions that the signature tells apart is refused. -/
theorem no_universal_signature (sender : Address) :
    (HasOrderDividing 1 sender.bytes →
      ∀ transaction : Transaction, transaction.sender = sender →
        transaction.verify ⟨neutralSignature⟩ = .ok ()) ∧
    (¬ HasOrderDividing 1 sender.bytes → ∀ signature : Signature,
      ((CurvePoint.decode? sender.bytes = none ∨ order ≤ response signature.bytes) →
        ∀ transaction : Transaction, transaction.sender = sender →
          transaction.verify signature = .error .invalidSignature) ∧
      ∀ a b : Transaction, a.sender = sender → b.sender = sender → signature.TellsApart a b →
        a.verify signature = .error .invalidSignature ∨
          b.verify signature = .error .invalidSignature) := by
  refine ⟨?_, fun hneutral signature => ⟨?_, ?_⟩⟩
  · rintro hneutral transaction rfl
    exact verify_neutralSignature_eq_ok hneutral
  · rintro hinvalid transaction rfl
    rw [verify_eq_error_iff, ne_eq, verify_eq_ok_iff, verify_eq_false hinvalid]
    exact Bool.false_ne_true
  · rintro a b rfl hsender hapart
    rw [verify_eq_error_iff, verify_eq_error_iff, ← not_and_or]
    rintro ⟨ha, hb⟩
    exact (verify_eq_ok_iff_not_tellsApart hsender.symm hneutral ha).mp hb hapart

end Transaction

/-- The account whose key is the usual encoding of the neutral point. -/
def Address.ofNeutral : Address :=
  ⟨⟨1 :: List.replicate 31 0, by decide⟩⟩

/-- Its point is the neutral one, which has order one. -/
theorem Address.hasOrderDividing_ofNeutral : HasOrderDividing 1 Address.ofNeutral.bytes :=
  (hasOrderDividing_one_iff _).mpr (by decide)

/-- The account of the seed that is all zeros. -/
def Address.ofZeroSeed : Address :=
  ⟨⟨[0x3b, 0x6a, 0x27, 0xbc, 0xce, 0xb6, 0xa4, 0x2d, 0x62, 0xa3, 0xa8, 0xd0, 0x2a, 0x6f, 0x0d,
    0x73, 0x65, 0x32, 0x15, 0x77, 0x1d, 0xe2, 0x43, 0xa6, 0x3a, 0xc0, 0x48, 0xa1, 0x8b, 0x59,
    0xda, 0x29], by decide⟩⟩

/-- Transfers of that account, by their nonce. -/
def Transfer.ofZeroSeed (nonce : UInt64) : Transfer :=
  ⟨.ofZeroSeed, ⟨.replicate 32 0x11⟩, 1000, 10, nonce, .unscoped⟩

/-- Its signature of the first of them. -/
def Signature.ofZeroSeed : Signature :=
  ⟨⟨[0xbc, 0x28, 0xf5, 0x75, 0xec, 0xea, 0x67, 0xb2, 0x58, 0x5a, 0x83, 0xda, 0x8d, 0x7c, 0xc7,
    0x0f, 0x9f, 0x11, 0x99, 0x9a, 0xdd, 0x58, 0xa2, 0x2b, 0x3b, 0x22, 0xe8, 0xe8, 0x5f, 0xaf,
    0xc6, 0x39, 0x87, 0x62, 0xc2, 0x5b, 0xad, 0xd3, 0x15, 0xb8, 0x89, 0x44, 0xa1, 0xa2, 0x36,
    0xca, 0x34, 0x8d, 0xe9, 0x91, 0x6d, 0xb9, 0x6e, 0xa4, 0xde, 0x92, 0x61, 0xce, 0xb1, 0xcf,
    0x5e, 0x22, 0xf9, 0x05], by decide⟩⟩

namespace Transaction

/-- The signature of the first transfer tells it apart from the third, by the parity of the
challenges already, so it does not fit both; a signature that is all ones fits no transfer of the
account, and the neutral signature fits each one of the neutral account. -/
theorem no_universal_signature_ofZeroSeed :
    HasOrderDividing 1 Address.ofNeutral.bytes ∧
      ¬ HasOrderDividing 1 Address.ofZeroSeed.bytes ∧
      order ≤ response (.replicate 64 0xff) ∧
      Signature.ofZeroSeed.TellsApart (transfer (.ofZeroSeed 1)) (transfer (.ofZeroSeed 3)) ∧
      (transfer { Transfer.ofZeroSeed 1 with sender := .ofNeutral }).verify ⟨neutralSignature⟩ =
        .ok () ∧
      (transfer (.ofZeroSeed 1)).verify ⟨.replicate 64 0xff⟩ = .error .invalidSignature ∧
      ((transfer (.ofZeroSeed 1)).verify .ofZeroSeed = .error .invalidSignature ∨
        (transfer (.ofZeroSeed 3)).verify .ofZeroSeed = .error .invalidSignature) := by
  have hneutral : ¬ HasOrderDividing 1 Address.ofZeroSeed.bytes := by
    rw [hasOrderDividing_one_iff]
    decide +kernel
  have hlarge : order ≤ response (.replicate 64 0xff) := by decide +kernel
  have hparity : Signature.ofZeroSeed.challenge (transfer (.ofZeroSeed 1)) % 2 ≠
      Signature.ofZeroSeed.challenge (transfer (.ofZeroSeed 3)) % 2 := by
    decide +kernel
  have hapart : Signature.ofZeroSeed.TellsApart (transfer (.ofZeroSeed 1))
      (transfer (.ofZeroSeed 3)) := by
    have heven : ∀ n ∈ [2, 4, 8], 2 ∣ n := by decide
    exact ⟨fun hsame => hparity (by rw [hsame]), fun n hn _ hmod =>
      hparity (hmod.of_dvd (heven n hn))⟩
  refine ⟨Address.hasOrderDividing_ofNeutral, hneutral, hlarge, hapart, ?_, ?_, ?_⟩
  · exact (no_universal_signature .ofNeutral).1 Address.hasOrderDividing_ofNeutral _ rfl
  · exact ((no_universal_signature .ofZeroSeed).2 hneutral _).1 (Or.inr hlarge) _ rfl
  · exact ((no_universal_signature .ofZeroSeed).2 hneutral .ofZeroSeed).2 _ _ rfl rfl hapart

/-- Not every signature is refused for some transaction of every account: the neutral one is not
for any transaction of the neutral account. -/
theorem universal_signature_ofNeutral :
    (¬ ∃ transaction : Transaction, transaction.sender = .ofNeutral ∧
      transaction.verify ⟨neutralSignature⟩ = .error .invalidSignature) ∧
    ¬ ∀ (sender : Address) (signature : Signature), ∃ transaction : Transaction,
      transaction.sender = sender ∧
        transaction.verify signature = .error .invalidSignature := by
  have hfits : ¬ ∃ transaction : Transaction, transaction.sender = .ofNeutral ∧
      transaction.verify ⟨neutralSignature⟩ = .error .invalidSignature := by
    rintro ⟨transaction, hsender, herror⟩
    have hneutral : HasOrderDividing 1 transaction.sender.bytes :=
      hsender ▸ Address.hasOrderDividing_ofNeutral
    exact verify_eq_error_iff.mp herror (verify_neutralSignature_eq_ok hneutral)
  exact ⟨hfits, fun hrefused => hfits (hrefused .ofNeutral ⟨neutralSignature⟩)⟩

end Transaction

end OfflineSigner

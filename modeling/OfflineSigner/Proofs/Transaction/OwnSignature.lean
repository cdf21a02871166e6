import OfflineSigner.Proofs.Transaction.UniversalSignature

/-!
# A key pair's own signatures are accepted

The public key is a multiple of the base point and the commitment of a signature is another one. The
response is the sum of the two multipliers, the first of them taken as often as the challenge says
and the whole modulo the order of the base point. So what a check computes, the response's multiple
of the base point less the challenge's multiple of the key, is the commitment again. This holds for
every seed and every message, hence for whatever transaction is sent from the account of the seed.
-/

namespace OfflineSigner

namespace Ed25519

open CurvePoint

/-- The secret number of a message, whose multiple of the base point is the commitment. -/
def nonce (seed : FixedBytes 32) (message : List UInt8) : Nat :=
  hashToScalar (noncePrefix seed ++ message)

/-- A key that is derived from a seed is the key of a multiple of the base point. -/
theorem exists_decode?_publicKey (seed : FixedBytes 32) :
    ∃ point, decode? (publicKey seed) = some point ∧
      point.Represents (secretScalar seed • basePoint) :=
  (represents_base.scale (secretScalar seed)).exists_decode?_encode

variable (seed key : FixedBytes 32) (message : List UInt8)

/-- A signature begins with the bytes of the commitment. -/
theorem commitment_signWith :
    commitment (signWith seed key message) =
      (pointBytes (nonce seed message • basePoint)).toList := by
  rw [← (represents_base.scale (nonce seed message)).encode_eq]
  exact List.take_left' (base.scale (nonce seed message)).encode.length_toList

/-- The challenge that is signed is the one that is checked. -/
theorem challenge_signWith :
    challenge key (signWith seed key message) message =
      hashToScalar ((base.scale (nonce seed message)).encode.toList ++ key.toList ++ message) := by
  rw [challenge, commitment_signWith, ← (represents_base.scale (nonce seed message)).encode_eq]

/-- A signature ends with the response. -/
theorem response_signWith :
    response (signWith seed key message) =
      (nonce seed message + challenge key (signWith seed key message) message * secretScalar seed) %
        order := by
  have hfits : ∀ n, n % order < 256 ^ 32 := fun n =>
    (Nat.mod_lt n (by decide)).trans (by decide)
  rw [challenge_signWith]
  exact (congrArg LittleEndian.decode
    (List.drop_left' (base.scale (nonce seed message)).encode.length_toList)).trans
      (LittleEndian.decode_encode 32 _ (hfits _))

/-- The response is not too large. -/
theorem response_signWith_lt : response (signWith seed key message) < order := by
  rw [response_signWith]
  exact Nat.mod_lt _ (by decide)

/-- What the response takes the base point to is the commitment and a multiple of the key's point. -/
theorem response_signWith_nsmul :
    response (signWith seed key message) • basePoint =
      nonce seed message • basePoint +
        challenge key (signWith seed key message) message • secretScalar seed • basePoint := by
  rw [response_signWith, ← addOrderOf_basePoint, mod_addOrderOf_nsmul, add_nsmul, mul_nsmul']

/-- The signature of a message under a seed is one of the message under the seed's key. -/
theorem verify_sign : verify (publicKey seed) message (sign seed message) = true := by
  obtain ⟨point, hkey, hpoint⟩ := exists_decode?_publicKey seed
  rw [sign, verify_iff hkey hpoint (response_signWith_lt seed _ message), response_signWith_nsmul,
    smul_neg, add_neg_cancel_right, commitment_signWith]

end Ed25519

namespace KeyPair

/-- A key pair signs as its seed does. -/
theorem bytes_sign (pair : KeyPair) (message : List UInt8) :
    (pair.sign message).bytes = Ed25519.sign pair.seed message := by
  rw [sign, pair.address_eq, Ed25519.sign]

/-- Whatever a key pair signs is checked under its public key with success. -/
theorem verify_sign (pair : KeyPair) (message : List UInt8) :
    (pair.sign message).verify message pair.address = true := by
  rw [Signature.verify, bytes_sign, pair.address_eq]
  exact Ed25519.verify_sign pair.seed message

/-- The first test vector of RFC 8032, the signature of no bytes at all. -/
example :
    (ofSeedHex "9d61b19deffd5a60ba844af492ec2cc44449c5697b326919703bac031cae7f60").map
        (fun pair => (pair.address.toHex, (pair.sign []).toHex)) =
      .ok ("d75a980182b10ab7d54bfed3c964073a0ee172f3daa62325af021a68f707511a",
        "e5564300c360ac729086e2cc806e828a84877f1eb8e5d974d873e06522490155" ++
          "5fb8821590a33bacc61e39701cf9b46bd25bf5f0595bbe24655141438e7a100b") := by
  decide +kernel

end KeyPair

namespace Transaction

/-- Whatever the seed, its signature of a message of any length passes the check under the key that
is derived from it, and every transaction that is sent from its account is accepted with the
signature that its key pair makes of the signed bytes. -/
theorem verify_own_signature (seed : Seed) :
    (∀ message, Ed25519.verify (Ed25519.publicKey seed) message (Ed25519.sign seed message) = true) ∧
    (∀ message, ((KeyPair.ofSeed seed).sign message).verify message
      (KeyPair.ofSeed seed).address = true) ∧
    ∀ transaction : Transaction, transaction.sender = (KeyPair.ofSeed seed).address →
      transaction.verify ((KeyPair.ofSeed seed).sign transaction.payload) = .ok () := by
  refine ⟨Ed25519.verify_sign seed, (KeyPair.ofSeed seed).verify_sign, ?_⟩
  intro transaction hsender
  rw [verify_eq_ok_iff, hsender]
  exact (KeyPair.ofSeed seed).verify_sign transaction.payload

/-- The first transfer of the account of the zero seed is accepted with the signature that is
computed for it. -/
theorem verify_own_signature_ofZeroSeed :
    (transfer (.ofZeroSeed 1)).sender = (KeyPair.ofSeed (.replicate 32 0)).address ∧
      (transfer (.ofZeroSeed 1)).verify .ofZeroSeed = .ok () := by
  have hsender : (transfer (.ofZeroSeed 1)).sender = (KeyPair.ofSeed (.replicate 32 0)).address := by
    decide +kernel
  have hsignature : Signature.ofZeroSeed =
      (KeyPair.ofSeed (.replicate 32 0)).sign (transfer (.ofZeroSeed 1)).payload := by
    decide +kernel
  have hcontent := (verify_own_signature (.replicate 32 0)).2.2 (transfer (.ofZeroSeed 1)) hsender
  exact ⟨hsender, hsignature ▸ hcontent⟩

end Transaction

end OfflineSigner

import OfflineSigner.Crypto.Edwards
import OfflineSigner.Crypto.Sha512

/-!
# Ed25519

Key derivation, signing and checking of signatures as in RFC 8032. A check refuses a scalar that is
not below the order of the base point and compares the first half of the signature byte for byte
with the encoding of the point it should be; the cofactor is not cleared, and neither keys of small
order nor keys with an unusual encoding are refused.
-/

namespace OfflineSigner.Ed25519

/-- The order of the base point. -/
def order : Nat := (1 <<< 252) + 27742317777372353535851937790883648493

/-- The secret scalar: the low half of the seed's digest with its fixed bits set and cleared. -/
def secretScalar (seed : FixedBytes 32) : Nat :=
  let low := LittleEndian.decode ((Sha512.digest seed.toList).take 32)
  (1 <<< 254) + low % (1 <<< 254) / 8 * 8

/-- The bytes that make the nonce of a message secret: the high half of the seed's digest. -/
def noncePrefix (seed : FixedBytes 32) : List UInt8 :=
  (Sha512.digest seed.toList).drop 32

/-- The digest of some bytes as a scalar. -/
def hashToScalar (bytes : List UInt8) : Nat :=
  LittleEndian.decode (Sha512.digest bytes) % order

/-- The public key of a seed. -/
def publicKey (seed : FixedBytes 32) : FixedBytes 32 :=
  (CurvePoint.base.scale (secretScalar seed)).encode

/-- The signature of a message under a seed whose public key is given. -/
def signWith (seed key : FixedBytes 32) (message : List UInt8) : FixedBytes 64 :=
  let nonce := hashToScalar (noncePrefix seed ++ message)
  let commitment := (CurvePoint.base.scale nonce).encode
  let challenge := hashToScalar (commitment.toList ++ key.toList ++ message)
  let response := (nonce + challenge * secretScalar seed) % order
  ⟨commitment.toList ++ LittleEndian.encode 32 response, by simp [commitment.length_toList]⟩

/-- The signature of a message under a seed. -/
def sign (seed : FixedBytes 32) (message : List UInt8) : FixedBytes 64 :=
  signWith seed (publicKey seed) message

/-- Whether a signature is one of the message under the key. -/
def verify (key : FixedBytes 32) (message : List UInt8) (signature : FixedBytes 64) : Bool :=
  let commitment := signature.toList.take 32
  let response := LittleEndian.decode (signature.toList.drop 32)
  if order ≤ response then false
  else
    match CurvePoint.decode? key with
    | none => false
    | some point =>
      let challenge := hashToScalar (commitment ++ key.toList ++ message)
      let expected := (CurvePoint.base.scale response).add (point.negate.scale challenge)
      expected.encode.toList == commitment

end OfflineSigner.Ed25519

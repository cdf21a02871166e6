import OfflineSigner.Crypto.Ed25519
import OfflineSigner.Key.Entropy
import OfflineSigner.Key.Signer

/-!
# Key pairs

A seed with its public key. Every way to make a key pair derives the public key from the seed, so
the two always belong together. A seed is written as 64 hexadecimal digits; its text is measured
before it is read, so that only a text of the right length is looked at digit by digit.
-/

namespace OfflineSigner

/-- A seed and the public key derived from it. -/
structure KeyPair where
  seed : Seed
  address : Address
  /-- The public key is that of the seed. -/
  address_eq : address.bytes = Ed25519.publicKey seed

namespace KeyPair

/-- The key pair of a seed. -/
def ofSeed (seed : Seed) : KeyPair := ⟨seed, ⟨Ed25519.publicKey seed⟩, rfl⟩

/-- The key pair of a seed given as 64 hexadecimal digits. -/
def ofSeedHex (text : String) : Except KeyError KeyPair :=
  let spelling := Hex.normalize text
  let length := (utf8 spelling).length
  if length ≠ 64 then
    .error (.invalidSeed s!"expected 64 hex characters, got {length}")
  else
    match (FixedBytes.ofHex "seed" spelling : Except ValueError Seed) with
    | .ok seed => .ok (ofSeed seed)
    | .error reason => .error (.invalidSeed reason.message)

/-- The key pair of the next seed of a source, which is drawn into zeros. -/
def generate {σ : Type} (source : Entropy σ) (state : σ) : Except KeyError KeyPair × σ :=
  match source.fill (FixedBytes.replicate 32 0) state with
  | ((.ok (), seed), next) => (.ok (ofSeed seed), next)
  | ((.error error, _), next) => (.error error, next)

/-- The canonical text of the seed. -/
def seedHex (pair : KeyPair) : String := pair.seed.toHex

/-- The short form for reports, which does not show the seed. -/
def brief (pair : KeyPair) : String :=
  "KeyPair \x7b public: " ++ pair.address.brief ++ ", .. \x7d"

/-- The signature of a message. -/
def sign (pair : KeyPair) (message : List UInt8) : Signature :=
  ⟨Ed25519.signWith pair.seed pair.address.bytes message⟩

/-- A key pair as a signer. -/
def signer (pair : KeyPair) : Signer :=
  ⟨pair.address, fun message => .ok (pair.sign message)⟩

/-- Two key pairs with the same seed are equal. -/
theorem ext {a b : KeyPair} (h : a.seed = b.seed) : a = b := by
  have same : a.address = b.address := by
    have bytes : a.address.bytes = b.address.bytes := by rw [a.address_eq, b.address_eq, h]
    cases ha : a.address
    cases hb : b.address
    simp_all
  cases a
  cases b
  simp_all

end KeyPair

/-- Whether a signature is one of the message under the public key of an account. -/
def Signature.verify (signature : Signature) (message : List UInt8) (key : Address) : Bool :=
  Ed25519.verify key.bytes message signature.bytes

end OfflineSigner

import OfflineSigner.Address
import OfflineSigner.Key.Error
import OfflineSigner.Signature

/-!
# Signers

Whatever can sign: a public key and a way to sign a message, which may fail. A signer that stands in
for a missing or broken primitive fails, or gives zeros in place of a signature.
-/

namespace OfflineSigner

/-- A public key and a way to sign under it. -/
structure Signer where
  /-- The key under which signatures are checked. -/
  publicKey : Address
  sign : List UInt8 → Except KeyError Signature

/-- Takes what a signing primitive gave as a signature. -/
def Signature.ofRaw (bytes : List UInt8) : Except KeyError Signature :=
  match Signature.ofBytes bytes with
  | .ok signature => .ok signature
  | .error _ => .error (.malformedSignature bytes.length)

/-- What is wrong with the signing primitive. -/
inductive BrokenSigning where
  | unavailable
  /-- It gives this number of zero bytes for every message. -/
  | zeros (length : Nat)
deriving DecidableEq

namespace BrokenSigning

/-- What signing any message gives. -/
def sign : BrokenSigning → Except KeyError Signature
  | unavailable => .error .signingUnavailable
  | zeros length => Signature.ofRaw (List.replicate length 0)

/-- A signer with a broken primitive. -/
def signer (fault : BrokenSigning) (publicKey : Address) : Signer :=
  ⟨publicKey, fun _ => fault.sign⟩

end BrokenSigning

end OfflineSigner

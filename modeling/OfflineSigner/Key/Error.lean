/-!
# Errors of keys and signing
-/

namespace OfflineSigner

/-- Why there is no key pair or no signature. -/
inductive KeyError where
  | invalidSeed (reason : String)
  /-- The signing primitive is missing. -/
  | signingUnavailable
  /-- The signing primitive gave a value of the wrong size. -/
  | malformedSignature (length : Nat)
  /-- No seed could be drawn. -/
  | entropy (reason : String)
deriving DecidableEq

/-- The wording of an error. -/
def KeyError.message : KeyError → String
  | .invalidSeed reason => s!"invalid seed: {reason}"
  | .signingUnavailable => "signing unavailable: Ed25519 support is not compiled in"
  | .malformedSignature length => s!"malformed signature: expected 64 bytes, got {length}"
  | .entropy reason => s!"entropy source failed: {reason}"

end OfflineSigner

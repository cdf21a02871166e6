import OfflineSigner.Transaction.Error

/-!
# Errors of a wallet

What a wallet reports when it cannot do what was asked. Every error of values, keys and
transactions has its place here; refused values and refused signatures are invalid input, a bad
seed is invalid input about the seed, and a failed draw of a seed is an error of keys.
-/

namespace OfflineSigner

/-- Why a wallet cannot do what was asked. -/
inductive WalletError where
  | invalidInput (reason : String)
  /-- The signing primitive is missing. -/
  | signingUnavailable
  /-- The signing primitive gave a value of the wrong size. -/
  | malformedSignature (length : Nat)
  | key (reason : String)
  | config (reason : String)
  | serialization (reason : String)
deriving DecidableEq

namespace WalletError

/-- The wording of an error. -/
def message : WalletError → String
  | invalidInput reason => s!"invalid input: {reason}"
  | signingUnavailable => "signing unavailable: Ed25519 support is not compiled in"
  | malformedSignature length => s!"malformed signature: expected 64 bytes, got {length}"
  | key reason => s!"key error: {reason}"
  | config reason => s!"config error: {reason}"
  | serialization reason => s!"serialization error: {reason}"

/-- The error of a refused value. -/
def ofValue (error : ValueError) : WalletError :=
  invalidInput error.message

/-- The error of a key or of signing. -/
def ofKey : KeyError → WalletError
  | .invalidSeed reason => invalidInput s!"seed: {reason}"
  | .signingUnavailable => signingUnavailable
  | .malformedSignature length => malformedSignature length
  | .entropy reason => key reason

/-- The error of a transaction. -/
def ofTransaction : TransactionError → WalletError
  | .invalidInput reason => invalidInput reason
  | .invalidSignature => invalidInput "signature does not verify against the sender key"
  | .key error => ofKey error

/-- Passes a value on, or the wallet's error of its refusal. -/
def liftValue {α : Type} : Except ValueError α → Except WalletError α
  | .ok value => .ok value
  | .error error => .error (ofValue error)

/-- Passes a value on, or the wallet's error of the failure of a key. -/
def liftKey {α : Type} : Except KeyError α → Except WalletError α
  | .ok value => .ok value
  | .error error => .error (ofKey error)

/-- Passes a value on, or the wallet's error of the failure of a transaction. -/
def liftTransaction {α : Type} : Except TransactionError α → Except WalletError α
  | .ok value => .ok value
  | .error error => .error (ofTransaction error)

end WalletError

end OfflineSigner

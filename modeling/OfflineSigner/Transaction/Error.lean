import OfflineSigner.Key.Error
import OfflineSigner.ValueError

/-!
# Errors of transactions
-/

namespace OfflineSigner

/-- Why a transaction cannot be made or is not accepted. -/
inductive TransactionError where
  | invalidInput (reason : String)
  /-- The signature is not one of the sender. -/
  | invalidSignature
  | key (error : KeyError)
deriving DecidableEq

namespace TransactionError

/-- The wording of an error. -/
def message : TransactionError → String
  | invalidInput reason => s!"invalid input: {reason}"
  | invalidSignature => "signature does not verify against the sender key"
  | key error => error.message

/-- The error of a refused value. -/
def ofValue (error : ValueError) : TransactionError :=
  invalidInput error.message

/-- Passes a value on, or the error of its refusal. -/
def liftValue {α : Type} : Except ValueError α → Except TransactionError α
  | .ok value => .ok value
  | .error error => .error (ofValue error)

end TransactionError

end OfflineSigner

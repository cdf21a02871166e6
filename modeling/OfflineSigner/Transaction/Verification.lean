import OfflineSigner.Key.Pair
import OfflineSigner.Transaction.Payload

/-!
# Acceptance of signed transactions

A signed transaction is accepted when the signature is one of the signed bytes under the key of the
sender.
-/

namespace OfflineSigner.Transaction

/-- Whether a signature is one of the transaction under the key of its sender. -/
def isSignedBy (transaction : Transaction) (signature : Signature) : Bool :=
  signature.verify transaction.payload transaction.sender

/-- Accepts a signed transaction or says why not. -/
def verify (transaction : Transaction) (signature : Signature) : Except TransactionError Unit :=
  if transaction.isSignedBy signature then .ok () else .error .invalidSignature

end OfflineSigner.Transaction

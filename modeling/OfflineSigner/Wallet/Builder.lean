import OfflineSigner.Key.Signer
import OfflineSigner.Transaction.Payload
import OfflineSigner.Wallet.Error
import OfflineSigner.Wallet.Wire

/-!
# Building signed transactions

A builder checks its texts, makes the signed bytes, asks the signer for a signature and writes the
result. It gives a whole signed text or an error, never a part. The checks come in the order in
which the fields are signed, and the signer is asked only when all of them have passed.
-/

namespace OfflineSigner

/-- What is to be done to an asset, in the words of the caller. -/
structure AssetRequest where
  action : AssetAction
  /-- The asset as hexadecimal text. -/
  assetId : String
  /-- The owner of the data as hexadecimal text; the signer when absent. -/
  owner : Option String
  density : Density
  /-- Free texts, and the auxiliary data under its reserved keys. -/
  metadata : Metadata
  /-- The game; an empty text stands for none. -/
  gameId : String
  fee : UInt64
  nonce : UInt64
  scope : ChainScope
deriving DecidableEq

namespace AssetRequest

/-- A request with nothing but an action, an asset and a density. -/
def minimal (action : AssetAction) (assetId : String) (density : Density) : AssetRequest :=
  ⟨action, assetId, none, density, .empty, "", 0, 0, .unscoped⟩

/-- The owner that a request means when the given account signs. -/
def resolveOwner (request : AssetRequest) (signer : Address) : Except ValueError Address :=
  match request.owner with
  | some text => Address.ofHex text
  | none => .ok signer

/-- The transaction that a request means when the given account signs. -/
def transaction (request : AssetRequest) (signer : Address) :
    Except WalletError AssetTransaction := do
  let assetId ← WalletError.liftValue (FixedBytes.ofHex "asset id" request.assetId)
  let owner ← WalletError.liftValue (request.resolveOwner signer)
  let extra ← WalletError.liftTransaction (AssetExtra.ofMetadata request.action request.metadata)
  return ⟨signer, request.action, assetId, owner, request.density, extra, request.fee,
    request.nonce, request.scope⟩

end AssetRequest

/-- A number that must not be negative; `field` names it in the error. -/
def nonNegative (field : String) (value : Int64) : Except WalletError UInt64 :=
  if value.toInt < 0 then
    .error (.invalidInput s!"{field} must not be negative, got {Decimal.ofInt value.toInt}")
  else .ok (UInt64.ofNat value.toInt.toNat)

namespace Signer

/-- Builds and signs a transfer. -/
def buildTransfer (signer : Signer) (recipient : String) (amount fee nonce : UInt64)
    (scope : ChainScope) : Except WalletError SignedText := do
  let transfer ← WalletError.liftTransaction
    (Transfer.toHexRecipient signer.publicKey recipient amount fee nonce scope)
  let signature ← WalletError.liftKey (signer.sign transfer.payload)
  return ⟨(transfer.wireJson signature).render⟩

/-- Builds and signs an action on an asset. -/
def buildAssetAction (signer : Signer) (request : AssetRequest) :
    Except WalletError SignedText := do
  let asset ← request.transaction signer.publicKey
  let signature ← WalletError.liftKey (signer.sign asset.payload)
  return ⟨(asset.wireJson request.metadata request.gameId signature).render⟩

/-- Builds and signs the creation of an asset that the signer owns. -/
def buildCreate (signer : Signer) (assetId : String) (density : Density) (metadata : Metadata)
    (gameId : String) (fee nonce : UInt64) (scope : ChainScope) : Except WalletError SignedText :=
  signer.buildAssetAction
    ⟨.create, assetId, none, density, metadata, gameId, fee, nonce, scope⟩

end Signer

end OfflineSigner

import OfflineSigner.Json.Printer
import OfflineSigner.Signature
import OfflineSigner.Transaction.Basic

/-!
# Signed transactions on the wire

The text that a node accepts. The amount and the fee of a transfer are written as texts, so that
all 64 bits survive any reader of numbers; the fee of an asset is a number. The scope is signed but
not written, and auxiliary data is written among the metadata: the other asset of a merge in its
canonical spelling.
-/

namespace OfflineSigner

/-- The text of a signed transaction. -/
structure SignedText where
  text : String
deriving DecidableEq

namespace SignedText

/-- The text of a request that submits the transaction. -/
def submissionBody (signed : SignedText) : String :=
  "\x7b\"transaction\":" ++ signed.text ++ "\x7d"

/-- The text of a result, where an error leaves nothing to submit. -/
def orEmpty {ε : Type} : Except ε SignedText → String
  | .ok signed => signed.text
  | .error _ => ""

end SignedText

/-- The metadata as it is written beside the auxiliary data that was signed. -/
def Metadata.rendered (metadata : Metadata) : AssetExtra → Metadata
  | .merge otherAsset => metadata.insert otherAssetKey otherAsset.toHex
  | _ => metadata

/-- A transfer with its signature. -/
def Transfer.wireJson (transfer : Transfer) (signature : Signature) : Json :=
  .tagged "Transfer" (.object [
    ("from", transfer.sender.toJson),
    ("to", transfer.recipient.toJson),
    ("amount", .string (Decimal.ofNat transfer.amount.toNat)),
    ("fee", .string (Decimal.ofNat transfer.fee.toNat)),
    ("nonce", .ofUInt64 transfer.nonce),
    ("signature", signature.toJson)])

/-- An action on an asset with its signature, and the texts that are not signed. -/
def AssetTransaction.wireJson (asset : AssetTransaction) (metadata : Metadata) (gameId : String)
    (signature : Signature) : Json :=
  .tagged "MistbornAsset" (.object [
    ("from", asset.sender.toJson),
    ("action", asset.action.toJson),
    ("asset_id", .string asset.assetId.toHex),
    ("data", .object [
      ("density", asset.density.toJson),
      ("metadata", .ofDictionary .string (metadata.rendered asset.extra)),
      ("attributes", .array []),
      ("game_id", if gameId.isEmpty then .null else .string gameId),
      ("owner", asset.owner.toJson)]),
    ("fee", .ofUInt64 asset.fee),
    ("nonce", .ofUInt64 asset.nonce),
    ("signature", signature.toJson)])

end OfflineSigner

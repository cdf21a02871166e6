import OfflineSigner.Transaction.Basic

/-!
# The signed bytes of a transaction

What is signed is a fixed sequence of fields: the name of the kind, the fields in the order of
their declaration, and the scope. Keys and asset ids stand for themselves, actions and densities
for their codes, and numbers are 64-bit little-endian. The auxiliary bytes of an asset stand before
the fee without a length, and absent scope fields leave no trace.
-/

namespace OfflineSigner

/-- The bytes that the sender of a transfer signs. -/
def Transfer.payload (transfer : Transfer) : List UInt8 :=
  utf8 "Transfer" ++ transfer.sender.bytes.toList ++ transfer.recipient.bytes.toList ++
    LittleEndian.ofUInt64 transfer.amount ++ LittleEndian.ofUInt64 transfer.fee ++
    LittleEndian.ofUInt64 transfer.nonce ++ transfer.scope.bytes

/-- The bytes that the sender of an action on an asset signs. -/
def AssetTransaction.payload (asset : AssetTransaction) : List UInt8 :=
  utf8 "MistbornAsset" ++ asset.sender.bytes.toList ++ [asset.action.code] ++
    asset.assetId.toList ++ asset.owner.bytes.toList ++ [asset.density.code] ++
    asset.extraBytes ++ LittleEndian.ofUInt64 asset.fee ++ LittleEndian.ofUInt64 asset.nonce ++
    asset.scope.bytes

/-- The bytes that the sender signs. -/
def Transaction.payload : Transaction → List UInt8
  | transfer content => content.payload
  | asset content => content.payload

end OfflineSigner

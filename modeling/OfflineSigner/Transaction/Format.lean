import OfflineSigner.Transaction.Basic

/-!
# Transactions in JSON

The exchange format of transactions that are not yet signed: an object whose single member is named
after the kind. The auxiliary data and the scope may be left out; everything else has to be there.
-/

namespace OfflineSigner

namespace Transfer

/-- The JSON value. -/
def toJson (transfer : Transfer) : Json :=
  .object [
    ("from", transfer.sender.toJson),
    ("to", transfer.recipient.toJson),
    ("amount", .ofUInt64 transfer.amount),
    ("fee", .ofUInt64 transfer.fee),
    ("nonce", .ofUInt64 transfer.nonce),
    ("scope", transfer.scope.toJson)]

/-- The fields of the JSON value. -/
def reader : RecordReader Transfer :=
  mk <$> .required "from" Address.ofJson
    <*> .required "to" Address.ofJson
    <*> .required "amount" Json.readUInt64
    <*> .required "fee" Json.readUInt64
    <*> .required "nonce" Json.readUInt64
    <*> .withDefault "scope" ChainScope.ofJson .unscoped

/-- Reads a JSON value. -/
def ofJson (value : Json) : Except DecodeError Transfer :=
  reader.ofJson "struct TransferTx" value

end Transfer

namespace AssetTransaction

/-- The JSON value. -/
def toJson (asset : AssetTransaction) : Json :=
  .object [
    ("from", asset.sender.toJson),
    ("action", asset.action.toJson),
    ("asset_id", .ofBytes asset.assetId.toList),
    ("owner", asset.owner.toJson),
    ("density", asset.density.toJson),
    ("extra", asset.extra.toJson),
    ("fee", .ofUInt64 asset.fee),
    ("nonce", .ofUInt64 asset.nonce),
    ("scope", asset.scope.toJson)]

/-- The fields of the JSON value. -/
def reader : RecordReader AssetTransaction :=
  mk <$> .required "from" Address.ofJson
    <*> .required "action" AssetAction.ofJson
    <*> .required "asset_id" (Json.readFixedBytes 32)
    <*> .required "owner" Address.ofJson
    <*> .required "density" Density.ofJson
    <*> .withDefault "extra" AssetExtra.ofJson .none
    <*> .required "fee" Json.readUInt64
    <*> .required "nonce" Json.readUInt64
    <*> .withDefault "scope" ChainScope.ofJson .unscoped

/-- Reads a JSON value. -/
def ofJson (value : Json) : Except DecodeError AssetTransaction :=
  reader.ofJson "struct AssetTx" value

end AssetTransaction

namespace Transaction

/-- The JSON value of the fields. -/
def contentJson : Transaction → Json
  | transfer content => content.toJson
  | asset content => content.toJson

/-- The JSON value. -/
def toJson (transaction : Transaction) : Json :=
  .tagged transaction.kind transaction.contentJson

/-- Reads a JSON value. -/
def ofJson (value : Json) : Except DecodeError Transaction := do
  let (name, content?) ← value.readChoice
  match name with
  | "Transfer" =>
    match content? with
    | some content => (Transfer.ofJson content).map transfer
    | none => .error (.bareVariant "newtype variant")
  | "MistbornAsset" =>
    match content? with
    | some content => (AssetTransaction.ofJson content).map asset
    | none => .error (.bareVariant "newtype variant")
  | other => .error (.unknownVariant other ["Transfer", "MistbornAsset"])

/-- The transaction with one field replaced by the value that a JSON value stands for. -/
def setField (transaction : Transaction) (name : String) (value : Json) :
    Except DecodeError Transaction :=
  ofJson (.canonical (.tagged transaction.kind (transaction.contentJson.setMember name value)))

end Transaction

end OfflineSigner

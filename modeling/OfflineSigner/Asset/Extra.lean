import OfflineSigner.Asset.Action
import OfflineSigner.Transaction.Error

/-!
# Auxiliary data of assets

A merge may name the other asset and a split may describe the components. Both travel in the
metadata of a request under reserved keys, and only the key that belongs to the action is looked
at. The other asset is read as hexadecimal text and the components are taken as they are.
-/

namespace OfflineSigner

/-- The identity of an asset. -/
abbrev AssetId := FixedBytes 32

/-- Free texts that belong to an asset, by key. -/
abbrev Metadata := Dictionary String

/-- The metadata key under which a merge names the other asset. -/
def otherAssetKey : String := "_other_asset_id"

/-- The metadata key under which a split describes the components. -/
def componentsKey : String := "_components"

/-- What an action carries besides its fixed fields. -/
inductive AssetExtra where
  | none
  | merge (otherAsset : AssetId)
  | split (components : String)
deriving DecidableEq

namespace AssetExtra

/-- The auxiliary data that the metadata holds for an action. -/
def ofMetadata (action : AssetAction) (metadata : Metadata) :
    Except TransactionError AssetExtra :=
  match action with
  | .merge =>
    match metadata.get? otherAssetKey with
    | some text => (TransactionError.liftValue (FixedBytes.ofHex "other asset id" text)).map merge
    | Option.none => .ok none
  | .split =>
    match metadata.get? componentsKey with
    | some text => .ok (split text)
    | Option.none => .ok none
  | _ => .ok none

/-- The bytes that are signed; data of another action adds none. -/
def bytesFor : AssetAction → AssetExtra → List UInt8
  | .merge, merge otherAsset => otherAsset.toList
  | .split, split components => utf8 components
  | _, _ => []

/-- The JSON value. -/
def toJson : AssetExtra → Json
  | none => .string "None"
  | merge otherAsset => .tagged "Merge" (.object [("other_asset_id", .ofBytes otherAsset.toList)])
  | split components => .tagged "Split" (.object [("components", .string components)])

/-- Reads a JSON value. -/
def ofJson (value : Json) : Except DecodeError AssetExtra := do
  let (name, content?) ← value.readChoice
  match name with
  | "None" =>
    match content? with
    | some content => content.readNothing.map fun _ => none
    | Option.none => .ok none
  | "Merge" =>
    (merge <$> RecordReader.required "other_asset_id" (Json.readFixedBytes 32)).ofContent content?
  | "Split" => (split <$> RecordReader.required "components" Json.readString).ofContent content?
  | other => .error (.unknownVariant other ["None", "Merge", "Split"])

end AssetExtra

end OfflineSigner

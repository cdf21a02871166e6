import OfflineSigner.Bytes.LittleEndian
import OfflineSigner.Json.Decoding

/-!
# Chain scopes

A scope narrows where and until when a signed message is valid. Each of its two fields is present
or absent on its own; an absent one adds no bytes to the message, which is not the same as zero.
-/

namespace OfflineSigner

/-- The chain that a message is meant for and the last height at which it may be included. -/
structure ChainScope where
  chainId : Option UInt64
  /-- The last height at which the message may be included. -/
  validUntilHeight : Option UInt64
deriving DecidableEq

namespace ChainScope

/-- The scope without fields. -/
def unscoped : ChainScope := ⟨none, none⟩

/-- The values that are present, the number of the chain first. -/
def values (scope : ChainScope) : List UInt64 :=
  scope.chainId.toList ++ scope.validUntilHeight.toList

/-- The bytes that the scope adds to a signed message. -/
def bytes (scope : ChainScope) : List UInt8 :=
  scope.values.flatMap LittleEndian.ofUInt64

/-- The number of bytes that the scope adds to a signed message. -/
def encodedLength (scope : ChainScope) : Nat :=
  8 * (scope.chainId.isSome.toNat + scope.validUntilHeight.isSome.toNat)

/-- The announced number of bytes is the number of bytes. -/
theorem length_bytes (scope : ChainScope) : scope.bytes.length = scope.encodedLength := by
  obtain ⟨chainId, height⟩ := scope
  cases chainId <;> cases height <;> simp [bytes, values, encodedLength]

/-- The JSON value. -/
def toJson (scope : ChainScope) : Json :=
  .object [
    ("chain_id", .ofOption .ofUInt64 scope.chainId),
    ("valid_until_height", .ofOption .ofUInt64 scope.validUntilHeight)]

/-- The fields of the JSON value; both may be left out. -/
def reader : RecordReader ChainScope :=
  mk <$> .withDefault "chain_id" (Json.readOptional Json.readUInt64) none
    <*> .withDefault "valid_until_height" (Json.readOptional Json.readUInt64) none

/-- Reads a JSON value. -/
def ofJson (value : Json) : Except DecodeError ChainScope :=
  reader.ofJson "struct ChainScope" value

end ChainScope

end OfflineSigner

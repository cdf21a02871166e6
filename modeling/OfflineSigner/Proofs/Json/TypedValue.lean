import OfflineSigner.Proofs.Data.Dictionary
import OfflineSigner.Proofs.Data.Except
import OfflineSigner.Proofs.Json.RoundTrip
import OfflineSigner.Asset.Extra
import OfflineSigner.Asset.Density

/-!
# Typed values read back from JSON values

The JSON value of an address, a signature, a named choice, a 64-bit number, a byte sequence in
hexadecimal and a dictionary of texts holds no double, so its text reads back, and is read as the
value it was made from.
-/

namespace OfflineSigner

namespace Json

/-- The value of a member as a reader gives it. -/
def field? {α : Type} (json : Json) (name : String) (read : Json → Except DecodeError α) :
    Option α :=
  (json.member? name).bind fun value => (read value).toOption

/-- Reads the hexadecimal text of `n` bytes, which `field` names in an error. -/
def readHex {n : Nat} (field : String) (value : Json) : Except DecodeError (FixedBytes n) := do
  Json.refuse (FixedBytes.ofHex field (← value.readString))

/-- A 64-bit number is held exactly. -/
@[simp] theorem exact_ofUInt64 (value : UInt64) : Exact (ofUInt64 value) :=
  have hbound := value.toNat_lt
  .integer (by omega) (by omega)

/-- A 64-bit number is read back. -/
@[simp] theorem readUInt64_ofUInt64 (value : UInt64) : readUInt64 (ofUInt64 value) = .ok value := by
  have hbound := value.toNat_lt
  rw [readUInt64, ofUInt64, readNatural, if_pos (by omega)]
  change Except.ok (UInt64.ofNat value.toNat) = .ok value
  rw [UInt64.ofNat_toNat]

/-- The canonical text of a byte sequence is read back. -/
@[simp] theorem readHex_toHex {n : Nat} (field : String) (value : FixedBytes n) :
    readHex field (.string value.toHex) = .ok value := by
  rw [readHex, readString, Except.ok_bind, FixedBytes.ofHex_toHex, refuse]

/-- An object holds no double exactly when none of its members does. -/
@[simp] theorem exact_object_iff {members : List (String × Json)} :
    Exact (.object members) ↔ ∀ member ∈ members, Exact member.2 := by
  constructor
  · rintro (_ | _ | _ | _ | _ | hmembers)
    exact hmembers
  · exact .object

/-- A dictionary of texts holds no double. -/
@[simp] theorem exact_ofDictionary (dictionary : Dictionary String) :
    Exact (ofDictionary .string dictionary) := by
  refine .object fun member hmember => ?_
  obtain ⟨entry, -, rfl⟩ := List.mem_map.mp hmember
  exact .string entry.2

end Json

/-- An address is read back. -/
@[simp] theorem Address.ofJson_toJson (address : Address) :
    ofJson address.toJson = .ok address := by
  rw [ofJson, toJson, Json.readString, Except.ok_bind, ofHex_toHex, Json.refuse]

/-- A signature is read back. -/
@[simp] theorem Signature.ofJson_toJson (signature : Signature) :
    ofJson signature.toJson = .ok signature := by
  rw [toJson, ofJson, ofHex_toHex, Json.refuse]

/-- The word of an action in JSON is its name. -/
@[simp] theorem AssetAction.variant_eq_name (action : AssetAction) :
    action.variant = action.name := by
  cases action <;> rfl

/-- The word of a density in JSON is its name. -/
@[simp] theorem Density.variant_eq_name (level : Density) : level.variant = level.name := by
  cases level <;> rfl

/-- An action is read back. -/
@[simp] theorem AssetAction.ofJson_toJson (action : AssetAction) :
    ofJson action.toJson = .ok action := by
  cases action <;> rfl

/-- A density is read back. -/
@[simp] theorem Density.ofJson_toJson (level : Density) :
    ofJson level.toJson = .ok level := by
  cases level <;> rfl

namespace Metadata

/-- Reads one member of an object as an entry. -/
def readEntry (member : String × Json) : Except DecodeError (String × String) :=
  member.2.readString.map fun text => (member.1, text)

/-- Reads an object of texts. -/
def ofJson : Json → Except DecodeError Metadata
  | .object members => (members.mapM readEntry).map Dictionary.ofList
  | other => .error (.wrongType other "a map")

/-- Metadata is read back. -/
@[simp] theorem ofJson_ofDictionary (metadata : Metadata) :
    ofJson (.ofDictionary .string metadata) = .ok metadata := by
  have hentries : ∀ entry : String × String, readEntry (entry.1, .string entry.2) = .ok entry :=
    fun _ => rfl
  rw [Json.ofDictionary, ofJson, Except.mapM_map_eq_ok hentries]
  exact congrArg Except.ok (Dictionary.ofList_toList metadata)

end Metadata

end OfflineSigner

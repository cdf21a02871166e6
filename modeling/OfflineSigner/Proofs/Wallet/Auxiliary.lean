import OfflineSigner.Proofs.Transaction.Payload
import OfflineSigner.Proofs.Wallet.Unsigned

/-!
# Auxiliary data is signed as it is read

What an action takes from the metadata and what it signs of it are decided in two places, each by a
table of actions and kinds of data. Data of a kind that the action does not sign would be dropped
without an error, so the two tables have to agree. They do: what is taken is of the kind that the
action signs, for all metadata, and nothing but the entry under the key of the action is looked at.
-/

namespace OfflineSigner

/-- The metadata key that an action looks at. -/
def AssetAction.reservedKey? : AssetAction → Option String
  | merge => some otherAssetKey
  | split => some componentsKey
  | _ => none

/-- A text is refused as some bytes exactly when it does not decode to that many. -/
theorem FixedBytes.exists_ofHex_eq_error_iff {n : Nat} (field : String) {text : String} :
    (∃ error, (ofHex field text : Except ValueError (FixedBytes n)) = .error error) ↔
      ¬ ∃ bytes, Hex.decode text = .ok bytes ∧ bytes.length = n := by
  have hspelled : (∃ bytes, Hex.decode text = .ok bytes ∧ bytes.length = n) ↔
      ∃ value : FixedBytes n, ofHex field text = .ok value := by
    simp only [ofHex_eq_ok_iff, IsSpelledBy]
    constructor
    · rintro ⟨bytes, hdecode, hlength⟩
      exact ⟨⟨bytes, hlength⟩, hdecode⟩
    · rintro ⟨value, hdecode⟩
      exact ⟨value.toList, hdecode, value.length_toList⟩
  rw [hspelled]
  cases (ofHex field text : Except ValueError (FixedBytes n)) <;> simp

namespace AssetExtra

variable {action : AssetAction} {metadata : Metadata} {extra : AssetExtra}

/-- Auxiliary data is refused for the text of a merge's other asset alone. -/
theorem ofMetadata_eq_error_iff {error : TransactionError} :
    ofMetadata action metadata = .error error ↔
      action = .merge ∧ ∃ text, metadata.get? otherAssetKey = some text ∧
        ∃ refused, (FixedBytes.ofHex "other asset id" text : Except ValueError AssetId) =
          .error refused ∧ error = .ofValue refused := by
  cases action with
  | merge =>
    rw [ofMetadata]
    cases metadata.get? otherAssetKey with
    | none => simp
    | some text =>
      cases hread : (FixedBytes.ofHex "other asset id" text : Except ValueError AssetId) <;>
        simp [TransactionError.liftValue, Except.map, hread, eq_comm]
  | split =>
    rw [ofMetadata]
    cases metadata.get? componentsKey <;> simp
  | create => simp [ofMetadata]
  | update => simp [ofMetadata]
  | condense => simp [ofMetadata]
  | evaporate => simp [ofMetadata]

/-- A split takes its components as they are, if there are any. -/
theorem ofMetadata_split_eq_ok_iff :
    ofMetadata .split metadata = .ok extra ↔
      (metadata.get? componentsKey = Option.none ∧ extra = none) ∨
        ∃ components, metadata.get? componentsKey = some components ∧ extra = split components := by
  rw [ofMetadata]
  cases metadata.get? componentsKey <;> simp [eq_comm]

/-- Where nothing stands under the key of an action, nothing is taken. -/
theorem eq_none_of_ofMetadata (h : ofMetadata action metadata = .ok extra)
    (hnone : action.reservedKey?.bind metadata.get? = Option.none) : extra = none := by
  cases action with
  | merge =>
    have hkey : metadata.get? otherAssetKey = Option.none := hnone
    simpa [hkey] using ofMetadata_merge_eq_ok_iff.mp h
  | split =>
    have hkey : metadata.get? componentsKey = Option.none := hnone
    simpa [hkey] using ofMetadata_split_eq_ok_iff.mp h
  | create => exact (Except.ok.inj h).symm
  | update => exact (Except.ok.inj h).symm
  | condense => exact (Except.ok.inj h).symm
  | evaporate => exact (Except.ok.inj h).symm

end AssetExtra

namespace AssetTransaction

/-- What an action on an asset signs beside its fixed fields is what the metadata holds for it. -/
structure SignsFrom (metadata : Metadata) (asset : AssetTransaction) : Prop where
  /-- A merge that names the other asset signs the 32 bytes that are spelled. -/
  merge : asset.action = .merge → ∀ text, metadata.get? otherAssetKey = some text →
    Hex.decode text = .ok asset.extraBytes ∧ asset.extraBytes.length = 32
  /-- A split with components signs their UTF-8 bytes. -/
  split : asset.action = .split → ∀ text, metadata.get? componentsKey = some text →
    asset.extraBytes = utf8 text
  /-- In every other case nothing is signed. -/
  nothing : asset.action.reservedKey?.bind metadata.get? = none → asset.extraBytes = []
  /-- The bytes stand in the message between the code of the density and the fee. -/
  payload_drop : asset.payload.drop 111 = asset.extraBytes ++
    (LittleEndian.ofUInt64 asset.fee ++ LittleEndian.ofUInt64 asset.nonce ++ asset.scope.bytes)

/-- The fields before the auxiliary bytes have a fixed width. -/
theorem drop_payload (asset : AssetTransaction) : asset.payload.drop 111 = asset.extraBytes ++
    (LittleEndian.ofUInt64 asset.fee ++ LittleEndian.ofUInt64 asset.nonce ++
      asset.scope.bytes) := by
  have hkind : (utf8 "MistbornAsset").length = 13 := by decide
  have hfixed : (utf8 "MistbornAsset" ++ asset.sender.bytes.toList ++ [asset.action.code] ++
      asset.assetId.toList ++ asset.owner.bytes.toList ++ [asset.density.code]).length = 111 := by
    simp [hkind, FixedBytes.length_toList]
  rw [payload, List.append_assoc, List.append_assoc, List.append_assoc, List.drop_left' hfixed]
  simp

/-- Whatever is taken from the metadata for its action is signed. -/
theorem signsFrom_of_ofMetadata {metadata : Metadata} {asset : AssetTransaction}
    (h : AssetExtra.ofMetadata asset.action metadata = .ok asset.extra) :
    asset.SignsFrom metadata where
  merge := by
    intro haction text hkey
    rw [haction] at h
    obtain ⟨otherAsset, hread, hextra⟩ : ∃ otherAsset : AssetId,
        FixedBytes.ofHex "other asset id" text = .ok otherAsset ∧
          asset.extra = .merge otherAsset := by
      simpa [hkey] using AssetExtra.ofMetadata_merge_eq_ok_iff.mp h
    rw [extraBytes, haction, hextra]
    exact ⟨FixedBytes.ofHex_eq_ok_iff.mp hread, otherAsset.length_toList⟩
  split := by
    intro haction text hkey
    rw [haction] at h
    have hextra : asset.extra = .split text := by
      simpa [hkey] using AssetExtra.ofMetadata_split_eq_ok_iff.mp h
    rw [extraBytes, haction, hextra]
    rfl
  nothing := by
    intro hnone
    rw [extraBytes, AssetExtra.eq_none_of_ofMetadata h hnone]
    cases asset.action <;> rfl
  payload_drop := asset.drop_payload

end AssetTransaction

namespace AssetExtra

/-- Auxiliary data that is read is never dropped. For every action and all metadata, reading fails
exactly when a merge names another asset in a text that does not decode to 32 bytes; what is read is
signed by every action on an asset that carries it, whatever its other fields; and other metadata
with the same entry under the key of the action gives the same. -/
theorem read_data_is_signed (action : AssetAction) (metadata : Metadata) :
    ((∃ error, ofMetadata action metadata = .error error) ↔
      action = .merge ∧ ∃ text, metadata.get? otherAssetKey = some text ∧
        ¬ ∃ bytes, Hex.decode text = .ok bytes ∧ bytes.length = 32) ∧
    (∀ extra, ofMetadata action metadata = .ok extra → ∀ asset : AssetTransaction,
      asset.action = action → asset.extra = extra → asset.SignsFrom metadata) ∧
    ∀ other : Metadata, (∀ key ∈ action.reservedKey?, other.get? key = metadata.get? key) →
      ofMetadata action other = ofMetadata action metadata := by
  refine ⟨?_, ?_, ?_⟩
  · simp only [ofMetadata_eq_error_iff, ← FixedBytes.exists_ofHex_eq_error_iff "other asset id"]
    constructor
    · rintro ⟨_, haction, text, hkey, refused, hrefused, _⟩
      exact ⟨haction, text, hkey, refused, hrefused⟩
    · rintro ⟨haction, text, hkey, refused, hrefused⟩
      exact ⟨_, haction, text, hkey, refused, hrefused, rfl⟩
  · intro extra h asset haction hextra
    apply AssetTransaction.signsFrom_of_ofMetadata
    rw [haction, hextra]
    exact h
  · intro other hsame
    have hagrees : Metadata.AgreesOnExtra action other metadata := {
      otherAsset := by
        intro haction
        rw [haction] at hsame
        rw [hsame otherAssetKey rfl]
      components := by
        intro haction
        rw [haction] at hsame
        exact hsame componentsKey rfl }
    exact hagrees.ofMetadata_eq

end AssetExtra

/-- Metadata with entries under both reserved keys and under another one. -/
def Metadata.bothKeys : Metadata :=
  .ofList [("note", ""), (componentsKey, "¼ + ¾"), (otherAssetKey, Address.spacedText)]

/-- An action on an asset with some auxiliary data. -/
def AssetTransaction.carrying (action : AssetAction) (extra : AssetExtra) : AssetTransaction :=
  { create Signer.zeros.publicKey (.replicate 32 0x22) .core 5 3 .unscoped with
    action, extra }

/-- Of the same metadata a merge signs the spelled bytes, a split the UTF-8 bytes and a creation
nothing; 31 bytes are refused to a merge; and a note makes no difference to a split. -/
theorem AssetExtra.read_data_is_signed_bothKeys :
    (ofMetadata .merge .bothKeys = .ok (.merge (.replicate 32 0xab)) ∧
        Hex.decode Address.spacedText =
          .ok (AssetTransaction.carrying .merge (.merge (.replicate 32 0xab))).extraBytes) ∧
      (ofMetadata .split .bothKeys = .ok (.split "¼ + ¾") ∧
        (AssetTransaction.carrying .split (.split "¼ + ¾")).extraBytes = utf8 "¼ + ¾") ∧
      (ofMetadata .create .bothKeys = .ok .none ∧
        (AssetTransaction.carrying .create .none).extraBytes = []) ∧
      (∃ error, ofMetadata .merge
        (.ofList [(otherAssetKey, Hex.encode (List.replicate 31 0xab))]) = .error error) ∧
      ofMetadata .split (Metadata.bothKeys.insert "note" "new") = ofMetadata .split .bothKeys := by
  obtain ⟨-, hmerge, -⟩ := read_data_is_signed .merge .bothKeys
  obtain ⟨-, hsplit, hunseen⟩ := read_data_is_signed .split .bothKeys
  obtain ⟨-, hcreate, -⟩ := read_data_is_signed .create .bothKeys
  obtain ⟨hfails, -, -⟩ := read_data_is_signed .merge
    (.ofList [(otherAssetKey, Hex.encode (List.replicate 31 0xab))])
  have hread : ofMetadata .merge .bothKeys = .ok (.merge (.replicate 32 0xab)) := by
    rw [ofMetadata_merge_eq_ok_iff]
    exact Or.inr ⟨Address.spacedText, _, rfl,
      FixedBytes.ofHex_eq_ok_iff.mpr Address.isSpelledBy_spacedText, rfl⟩
  refine ⟨?_, ?_, ?_, ?_, ?_⟩
  · exact ⟨hread, ((hmerge _ hread _ rfl rfl).merge rfl _ rfl).1⟩
  · exact ⟨rfl, (hsplit _ rfl _ rfl rfl).split rfl _ rfl⟩
  · exact ⟨rfl, (hcreate _ rfl _ rfl rfl).nothing rfl⟩
  · refine hfails.mpr ⟨rfl, Hex.encode (List.replicate 31 0xab), rfl, ?_⟩
    rintro ⟨bytes, hdecode, hlength⟩
    rw [Hex.decode_encode] at hdecode
    cases hdecode
    contradiction
  · apply hunseen
    intro key hkey
    cases hkey
    exact Dictionary.get?_insert_of_ne _ (by decide) _

end OfflineSigner

import OfflineSigner.Proofs.Bytes.Positions
import OfflineSigner.Proofs.Data.Search
import OfflineSigner.Proofs.Transaction.Verdict

/-!
# Where the fields of the signed bytes stand

A node that knows the layout reads every field at its place: keys, asset ids and codes at fixed
positions, then the auxiliary bytes, and behind these the numbers, the present values of the scope
last. Such a reading covers the bytes from the first to the last, so the signed bytes of a
transaction are the only ones from which its fields are read in this way.
-/

namespace OfflineSigner

open LittleEndian

/-- Every action is listed. -/
theorem AssetAction.mem_all (action : AssetAction) : action ∈ all := by
  cases action <;> decide

/-- Every density is listed. -/
theorem Density.mem_all (level : Density) : level ∈ all := by
  cases level <;> decide

/-- A code is that of one action. -/
theorem AssetAction.ofCode_eq_ok_iff {code : UInt8} {action : AssetAction} :
    ofCode code = .ok action ↔ code = action.code := by
  rw [ofCode, ← List.find?_key_eq_some_iff mem_all code_injective]
  cases all.find? fun other => other.code == code <;> simp

/-- A code is that of one density. -/
theorem Density.ofCode_eq_ok_iff {code : UInt8} {level : Density} :
    ofCode code = .ok level ↔ code = level.code := by
  rw [ofCode, ← List.find?_key_eq_some_iff mem_all code_injective]
  cases all.find? fun other => other.code == code <;> simp

namespace Transfer

/-- The fields of a transfer are found in some bytes at their places. -/
structure IsReadFrom (transfer : Transfer) (bytes : List UInt8) : Prop where
  length : bytes.length = 96 + transfer.scope.encodedLength
  kind : bytes.take 8 = utf8 "Transfer"
  sender : FixedBytes.readAt? 8 bytes = some transfer.sender.bytes
  recipient : FixedBytes.readAt? 40 bytes = some transfer.recipient.bytes
  amount : LittleEndian.readAt? 72 bytes = some transfer.amount
  fee : LittleEndian.readAt? 80 bytes = some transfer.fee
  nonce : LittleEndian.readAt? 88 bytes = some transfer.nonce
  scope : readAll? (bytes.drop 96) =
    some (transfer.scope.chainId.toList ++ transfer.scope.validUntilHeight.toList)

/-- The signed bytes have a fixed length but for the scope. -/
theorem length_payload (transfer : Transfer) :
    transfer.payload.length = 96 + transfer.scope.encodedLength := by
  have hkind : (utf8 "Transfer").length = 8 := by decide
  simp only [payload, List.length_append, hkind, FixedBytes.length_toList, length_ofUInt64,
    ChainScope.length_bytes]

/-- The fields are read one behind the other. -/
theorem isReadFrom_iff (transfer : Transfer) (bytes : List UInt8) :
    transfer.IsReadFrom bytes ↔ bytes = transfer.payload := by
  have hkind : (utf8 "Transfer").length = 8 := by decide
  have hfields : bytes = transfer.payload ↔
      bytes.take 8 = utf8 "Transfer" ∧
      FixedBytes.readAt? 8 bytes = some transfer.sender.bytes ∧
      FixedBytes.readAt? 40 bytes = some transfer.recipient.bytes ∧
      LittleEndian.readAt? 72 bytes = some transfer.amount ∧
      LittleEndian.readAt? 80 bytes = some transfer.fee ∧
      LittleEndian.readAt? 88 bytes = some transfer.nonce ∧
      readAll? (bytes.drop 96) = some transfer.scope.values := by
    rw [payload_eq, words, ← List.drop_zero (l := bytes), List.drop_eq_append_iff hkind,
      FixedBytes.drop_eq_append_iff, FixedBytes.drop_eq_append_iff, drop_eq_ofWords_cons_iff,
      drop_eq_ofWords_cons_iff, drop_eq_ofWords_cons_iff, readAll?_eq_some_iff, List.drop_zero]
  constructor
  · intro h
    exact hfields.mpr
      ⟨h.kind, h.sender, h.recipient, h.amount, h.fee, h.nonce, h.scope⟩
  · intro h
    obtain ⟨hkind, hsender, hrecipient, hamount, hfee, hnonce, hscope⟩ := hfields.mp h
    exact ⟨h ▸ transfer.length_payload, hkind, hsender, hrecipient, hamount, hfee, hnonce, hscope⟩

end Transfer

namespace AssetTransaction

/-- The fields of an action on an asset are found in some bytes at their places. -/
structure IsReadFrom (asset : AssetTransaction) (bytes : List UInt8) : Prop where
  length : bytes.length = 127 + asset.extraBytes.length + asset.scope.encodedLength
  kind : bytes.take 13 = utf8 "MistbornAsset"
  sender : FixedBytes.readAt? 13 bytes = some asset.sender.bytes
  action : bytes[45]?.map AssetAction.ofCode = some (.ok asset.action)
  assetId : FixedBytes.readAt? 46 bytes = some asset.assetId
  owner : FixedBytes.readAt? 78 bytes = some asset.owner.bytes
  density : bytes[110]?.map Density.ofCode = some (.ok asset.density)
  extra : (bytes.drop 111).take asset.extraBytes.length = asset.extraBytes
  fee : LittleEndian.readAt? (111 + asset.extraBytes.length) bytes = some asset.fee
  nonce : LittleEndian.readAt? (119 + asset.extraBytes.length) bytes = some asset.nonce
  scope : readAll? (bytes.drop (127 + asset.extraBytes.length)) =
    some (asset.scope.chainId.toList ++ asset.scope.validUntilHeight.toList)

/-- The signed bytes have a fixed length but for the auxiliary bytes and the scope. -/
theorem length_payload (asset : AssetTransaction) :
    asset.payload.length = 127 + asset.extraBytes.length + asset.scope.encodedLength := by
  have hkind : (utf8 "MistbornAsset").length = 13 := by decide
  simp only [payload, List.length_append, hkind, FixedBytes.length_toList, length_ofUInt64,
    ChainScope.length_bytes, List.length_singleton]
  omega

/-- The fields are read one behind the other. -/
theorem isReadFrom_iff (asset : AssetTransaction) (bytes : List UInt8) :
    asset.IsReadFrom bytes ↔ bytes = asset.payload := by
  have hkind : (utf8 "MistbornAsset").length = 13 := by decide
  have hnonceAt : 119 + asset.extraBytes.length = 111 + asset.extraBytes.length + 8 := by omega
  have hscopeAt : 127 + asset.extraBytes.length = 111 + asset.extraBytes.length + 8 + 8 := by omega
  have hfields : bytes = asset.payload ↔
      bytes.take 13 = utf8 "MistbornAsset" ∧
      FixedBytes.readAt? 13 bytes = some asset.sender.bytes ∧
      bytes[45]? = some asset.action.code ∧
      FixedBytes.readAt? 46 bytes = some asset.assetId ∧
      FixedBytes.readAt? 78 bytes = some asset.owner.bytes ∧
      bytes[110]? = some asset.density.code ∧
      (bytes.drop 111).take asset.extraBytes.length = asset.extraBytes ∧
      LittleEndian.readAt? (111 + asset.extraBytes.length) bytes = some asset.fee ∧
      LittleEndian.readAt? (119 + asset.extraBytes.length) bytes = some asset.nonce ∧
      readAll? (bytes.drop (127 + asset.extraBytes.length)) = some asset.scope.values := by
    rw [payload_eq, tail_eq, words, ← List.drop_zero (l := bytes), List.drop_eq_append_iff hkind,
      FixedBytes.drop_eq_append_iff, List.drop_eq_cons_iff, FixedBytes.drop_eq_append_iff,
      FixedBytes.drop_eq_append_iff, List.drop_eq_cons_iff, List.drop_eq_append_iff rfl,
      drop_eq_ofWords_cons_iff, drop_eq_ofWords_cons_iff, readAll?_eq_some_iff, List.drop_zero,
      hnonceAt, hscopeAt]
  have haction : bytes[45]?.map AssetAction.ofCode = some (.ok asset.action) ↔
      bytes[45]? = some asset.action.code := by
    simp [Option.map_eq_some_iff, AssetAction.ofCode_eq_ok_iff]
  have hdensity : bytes[110]?.map Density.ofCode = some (.ok asset.density) ↔
      bytes[110]? = some asset.density.code := by
    simp [Option.map_eq_some_iff, Density.ofCode_eq_ok_iff]
  constructor
  · intro h
    exact hfields.mpr ⟨h.kind, h.sender, haction.mp h.action, h.assetId, h.owner,
      hdensity.mp h.density, h.extra, h.fee, h.nonce, h.scope⟩
  · intro h
    obtain ⟨hkind, hsender, hactionCode, hassetId, howner, hdensityCode, hextra, hfee, hnonce,
      hscope⟩ := hfields.mp h
    exact ⟨h ▸ asset.length_payload, hkind, hsender, haction.mpr hactionCode, hassetId, howner,
      hdensity.mpr hdensityCode, hextra, hfee, hnonce, hscope⟩

/-- The auxiliary bytes are the other asset of a merge, the components of a split, and none for
every other pair of an action and auxiliary data. -/
theorem extraBytes_cases (asset : AssetTransaction) :
    (∃ otherAsset, asset.action = .merge ∧ asset.extra = .merge otherAsset ∧
        asset.extraBytes = otherAsset.toList ∧ asset.extraBytes.length = 32) ∨
      (∃ components, asset.action = .split ∧ asset.extra = .split components ∧
        asset.extraBytes = components.toUTF8.data.toList) ∨
      (¬ asset.extra.BelongsTo asset.action ∧ asset.extraBytes = []) := by
  obtain ⟨_, action, _, _, _, extra, _, _, _⟩ := asset
  by_cases hbelongs : extra.BelongsTo action
  · cases extra with
    | none => cases action <;> exact hbelongs.elim
    | merge otherAsset =>
      cases action with
      | merge => exact Or.inl ⟨otherAsset, rfl, rfl, rfl, otherAsset.length_toList⟩
      | _ => exact hbelongs.elim
    | split components =>
      cases action with
      | split => exact Or.inr (Or.inl ⟨components, rfl, rfl, utf8_eq_toUTF8 components⟩)
      | _ => exact hbelongs.elim
  · exact Or.inr (Or.inr ⟨hbelongs, AssetExtra.bytesFor_eq_nil hbelongs⟩)

end AssetTransaction

namespace Transaction

/-- The signed bytes of a transaction are exactly the bytes in which its fields are found at their
places, with nothing before, between or behind them; the place of the numbers of an action on an
asset depends on its auxiliary bytes, which only a merge of another asset and a split into
components have. -/
theorem payload_layout :
    (∀ (transfer : Transfer) (bytes : List UInt8),
      transfer.IsReadFrom bytes ↔ bytes = transfer.payload) ∧
    (∀ (asset : AssetTransaction) (bytes : List UInt8),
      asset.IsReadFrom bytes ↔ bytes = asset.payload) ∧
    ∀ asset : AssetTransaction,
      (∃ otherAsset, asset.action = .merge ∧ asset.extra = .merge otherAsset ∧
          asset.extraBytes = otherAsset.toList ∧ asset.extraBytes.length = 32) ∨
        (∃ components, asset.action = .split ∧ asset.extra = .split components ∧
          asset.extraBytes = components.toUTF8.data.toList) ∨
        (¬ asset.extra.BelongsTo asset.action ∧ asset.extraBytes = []) :=
  ⟨Transfer.isReadFrom_iff, AssetTransaction.isReadFrom_iff, AssetTransaction.extraBytes_cases⟩

end Transaction

end OfflineSigner

import OfflineSigner.Proofs.Json.TypedValue
import OfflineSigner.Proofs.Wallet.Builder
import OfflineSigner.Transaction.Verification

/-!
# Reading signed actions on assets

A node reads the text of a signed action member by member and takes the auxiliary data from the
metadata, as the signer did. Only the scope is not written. What it reads is the transaction whose
bytes were signed: the canonical spelling of a merge's other asset is read as the same asset, and
the components of a split are written as they are signed.

Nothing is said here about the signing primitive. That its checks accept its own signatures is a
hypothesis where acceptance is concluded.
-/

namespace OfflineSigner

/-- The action on an asset that a JSON value stands for under a scope, with its signature. -/
def AssetTransaction.ofWire? (scope : ChainScope) (json : Json) :
    Option (AssetTransaction × Signature) := do
  let content ← json.member? "MistbornAsset"
  let data ← content.member? "data"
  let sender ← content.field? "from" Address.ofJson
  let action ← content.field? "action" AssetAction.ofJson
  let assetId ← content.field? "asset_id" (Json.readHex "asset id")
  let density ← data.field? "density" Density.ofJson
  let metadata ← data.field? "metadata" Metadata.ofJson
  let owner ← data.field? "owner" Address.ofJson
  let extra ← (AssetExtra.ofMetadata action metadata).toOption
  let fee ← content.field? "fee" Json.readUInt64
  let nonce ← content.field? "nonce" Json.readUInt64
  let signature ← content.field? "signature" Signature.ofJson
  return (⟨sender, action, assetId, owner, density, extra, fee, nonce, scope⟩, signature)

/-- The action on an asset that a signed text stands for under a scope, with its signature. -/
def SignedText.readAsset? (signed : SignedText) (scope : ChainScope) :
    Option (AssetTransaction × Signature) :=
  (Json.parse? signed.text).bind (AssetTransaction.ofWire? scope)

namespace AssetExtra

/-- Only a merge has another asset. -/
theorem eq_merge_of_ofMetadata {action : AssetAction} {metadata : Metadata} {otherAsset : AssetId}
    (h : ofMetadata action metadata = .ok (merge otherAsset)) : action = .merge := by
  cases action with
  | merge => rfl
  | split =>
    simp only [ofMetadata] at h
    split at h <;> cases h
  | create => cases h
  | update => cases h
  | condense => cases h
  | evaporate => cases h

/-- The auxiliary data is found again in the metadata as it is written. -/
theorem ofMetadata_rendered {action : AssetAction} {metadata : Metadata} {extra : AssetExtra}
    (h : ofMetadata action metadata = .ok extra) :
    ofMetadata action (metadata.rendered extra) = .ok extra := by
  cases extra with
  | none => exact h
  | split components => exact h
  | merge otherAsset =>
    rw [eq_merge_of_ofMetadata h, ofMetadata, Metadata.rendered, Dictionary.get?_insert_self]
    simp only [FixedBytes.ofHex_toHex]
    rfl

end AssetExtra

namespace AssetTransaction

/-- The written form of a signed action holds no double. -/
theorem exact_wireJson (asset : AssetTransaction) (metadata : Metadata) (gameId : String)
    (signature : Signature) : (asset.wireJson metadata gameId signature).Exact := by
  have hgame : (if gameId.isEmpty then Json.null else .string gameId).Exact := by
    split
    · exact .null
    · exact .string gameId
  simp only [wireJson, Json.tagged, Json.exact_object_iff, List.forall_mem_cons,
    List.not_mem_nil, false_implies, implies_true, and_true]
  exact ⟨.string _, .string _, .string _,
    ⟨.string _, Json.exact_ofDictionary _, .array (List.forall_mem_nil _), hgame, .string _⟩,
    Json.exact_ofUInt64 _, Json.exact_ofUInt64 _, .string _⟩

/-- The written form of a signed action is read as that action with its signature. -/
theorem ofWire?_wireJson {asset : AssetTransaction} {metadata : Metadata} (gameId : String)
    (signature : Signature)
    (hextra : AssetExtra.ofMetadata asset.action metadata = .ok asset.extra) :
    ofWire? asset.scope (asset.wireJson metadata gameId signature) = some (asset, signature) := by
  have hrendered := AssetExtra.ofMetadata_rendered hextra
  simp [ofWire?, wireJson, Json.tagged, Json.field?, Json.member?, List.lookup_cons, hrendered,
    Except.toOption]

end AssetTransaction

/-- The signed text of an action on an asset stands for the transaction whose bytes were signed,
which is sent from the signer's account, and holds the signature that the signer gave for these
bytes. If the signer is a key pair whose signatures verify, the transaction is accepted. -/
theorem Signer.readAsset?_buildAssetAction (signer : Signer) (request : AssetRequest)
    (signed : SignedText) (h : signer.buildAssetAction request = .ok signed) :
    ∃ asset signature,
      signed.readAsset? request.scope = some (asset, signature) ∧
      (∀ message, HandsOver (fun other => other.buildAssetAction request) signer.publicKey message ↔
        message = asset.payload) ∧
      asset.sender = signer.publicKey ∧
      signer.sign asset.payload = .ok signature ∧
      ∀ pair : KeyPair, signer = pair.signer →
        (∀ message, (pair.sign message).verify message pair.address = true) →
          (Transaction.asset asset).verify signature = .ok () := by
  obtain ⟨asset, signature, hasset, hsignature, rfl⟩ := buildAssetAction_eq_ok_iff.mp h
  have hsender := AssetRequest.sender_of_transaction hasset
  refine ⟨asset, signature, ?_, handsOver_buildAssetAction_iff hasset, hsender, hsignature, ?_⟩
  · obtain ⟨assetId, owner, extra, -, -, hextra, rfl⟩ :=
      AssetRequest.transaction_eq_ok_iff.mp hasset
    rw [SignedText.readAsset?, Json.parse?_render (AssetTransaction.exact_wireJson _ _ _ _),
      Option.bind_some]
    exact AssetTransaction.ofWire?_wireJson request.gameId signature hextra
  · rintro pair rfl hverifies
    have haccepted : (Transaction.asset asset).isSignedBy signature = true := by
      change signature.verify asset.payload asset.sender = true
      rw [← Except.ok.inj hsignature, hsender]
      exact hverifies asset.payload
    exact if_pos haccepted

/-- A merge that spells the other asset in capitals and with spaces, among other metadata. -/
def AssetRequest.freelySpelled : AssetRequest :=
  ⟨.merge, "2222222222222222222222222222222222222222222222222222222222222222", none, .dense,
    .ofList [("note", "a \"quoted\" word"), (otherAssetKey,
      " ABABABABABABABAB ABABABABABABABAB abababababababab abababababababab ")],
    "", 5, 3, ⟨some 7, none⟩⟩

/-- Whoever signs it, the freely spelled merge names the other asset. -/
theorem AssetRequest.transaction_freelySpelled (account : Address) :
    freelySpelled.transaction account =
      .ok ⟨account, .merge, .replicate 32 0x22, account, .dense, .merge (.replicate 32 0xab), 5, 3,
        ⟨some 7, none⟩⟩ := rfl

/-- The key pair of a seed of ones. -/
def KeyPair.ones : KeyPair := ofSeed (.replicate 32 1)

/-- The freely spelled merge is signed by a key pair and read back. -/
theorem Signer.readAsset?_freelySpelled :
    ∃ signed, KeyPair.ones.signer.buildAssetAction .freelySpelled = .ok signed ∧
      ∃ asset signature,
        signed.readAsset? ⟨some 7, none⟩ = some (asset, signature) ∧
        asset.sender = KeyPair.ones.address ∧ signature = KeyPair.ones.sign asset.payload := by
  obtain ⟨signed, hbuilt⟩ :
      ∃ signed, KeyPair.ones.signer.buildAssetAction .freelySpelled = .ok signed :=
    ⟨_, buildAssetAction_eq_ok_iff.mpr
      ⟨_, _, AssetRequest.transaction_freelySpelled KeyPair.ones.address, rfl, rfl⟩⟩
  obtain ⟨asset, signature, hread, -, hsender, hsignature, -⟩ :=
    readAsset?_buildAssetAction KeyPair.ones.signer .freelySpelled signed hbuilt
  exact ⟨signed, hbuilt, asset, signature, hread, hsender, (Except.ok.inj hsignature).symm⟩

end OfflineSigner

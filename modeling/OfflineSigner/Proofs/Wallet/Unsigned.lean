import OfflineSigner.Proofs.Wallet.Respelling

/-!
# Texts that are not signed

The game and most metadata of an action are written beside what is signed, but they are neither
signed nor checked. Of the metadata only the key that belongs to the action counts: the other asset
of a merge and the components of a split. So two requests that agree in what is signed have the same
message for the signer and the same failure, and what is written of them differs in the metadata and
in the game alone. Under the reserved key of another action anything may stand.
-/

namespace OfflineSigner

namespace Json

/-- The value with null in place of what stands at the end of a path of members. -/
def hide : List String → Json → Json
  | [], _ => .null
  | name :: path, .object members =>
    .object (members.map fun member =>
      if member.1 = name then (member.1, hide path member.2) else member)
  | _ :: _, other => other

/-- The written form of a signed action without the two members that are not signed. -/
def hideUnsigned (json : Json) : Json :=
  (json.hide ["MistbornAsset", "data", "metadata"]).hide ["MistbornAsset", "data", "game_id"]

end Json

/-- Whatever metadata and game are given, the rest of the written form is the same. -/
theorem AssetTransaction.hideUnsigned_wireJson (asset : AssetTransaction)
    (metadata metadata' : Metadata) (gameId gameId' : String) (signature : Signature) :
    (asset.wireJson metadata gameId signature).hideUnsigned =
      (asset.wireJson metadata' gameId' signature).hideUnsigned := by
  simp [Json.hideUnsigned, Json.hide, wireJson, Json.tagged]

/-- Requests that agree in all that is signed when the account signs: the texts of the asset decode
alike, the owners resolve alike, and the metadata agrees in what the action takes from it. -/
structure AssetRequest.AgreesOnSigned (account : Address) (a b : AssetRequest) : Prop where
  action : a.action = b.action
  assetId : Hex.decode a.assetId = Hex.decode b.assetId
  owner : a.resolveOwner account = b.resolveOwner account
  density : a.density = b.density
  extra : a.metadata.AgreesOnExtra a.action b.metadata
  fee : a.fee = b.fee
  nonce : a.nonce = b.nonce
  scope : a.scope = b.scope

/-- They mean the same transaction or fail for the same reason. -/
theorem AssetRequest.AgreesOnSigned.transaction_eq {account : Address} {a b : AssetRequest}
    (h : AgreesOnSigned account a b) : a.transaction account = b.transaction account := by
  have hextra := h.extra.ofMetadata_eq
  rw [h.action] at hextra
  rw [transaction, transaction, FixedBytes.ofHex_eq_of_decode_eq h.assetId, h.owner, h.action,
    h.density, h.fee, h.nonce, h.scope, hextra]

namespace Signer

variable {a b : AssetRequest}

/-- Of requests that mean the same transaction the same message is handed over, if any. -/
theorem handsOver_iff_of_transaction_eq {account : Address}
    (h : a.transaction account = b.transaction account) (message : List UInt8) :
    HandsOver (fun signer => signer.buildAssetAction a) account message ↔
      HandsOver (fun signer => signer.buildAssetAction b) account message := by
  rcases ha : a.transaction account with error | asset
  · -- No signer is asked, so the two builders are the same function of the signer.
    have hrefused : ∀ request : AssetRequest, request.transaction account = .error error →
        ∀ sign, buildAssetAction ⟨account, sign⟩ request = .error error := by
      intro request hrequest sign
      rw [buildAssetAction, hrequest, Except.error_bind]
    simp only [HandsOver, hrefused a ha, hrefused b (h ▸ ha)]
  · rw [handsOver_buildAssetAction_iff ha, handsOver_buildAssetAction_iff (h ▸ ha)]

/-- A failure to build is a failure to read the request or one of the signer. -/
theorem buildAssetAction_eq_error_iff {signer : Signer} {request : AssetRequest}
    {error : WalletError} :
    signer.buildAssetAction request = .error error ↔
      request.transaction signer.publicKey = .error error ∨
      ∃ asset, request.transaction signer.publicKey = .ok asset ∧
        WalletError.liftKey (signer.sign asset.payload) = .error error := by
  simp only [buildAssetAction, Except.bind_eq_error_iff, Except.pure_ne_error, and_false,
    exists_false, or_false]

/-- What is not signed does not interfere with what is. For every signer, two requests that agree in
what is signed hand the same message to the signer, fail for the same reasons and succeed together,
whatever game and other metadata they hold; and the two texts that are then written are JSON values
that agree in every member but the metadata and the game. -/
theorem unsigned_texts_noninterference (signer : Signer) (a b : AssetRequest)
    (h : a.AgreesOnSigned signer.publicKey b) :
    (∀ message, HandsOver (fun other => other.buildAssetAction a) signer.publicKey message ↔
      HandsOver (fun other => other.buildAssetAction b) signer.publicKey message) ∧
    (∀ error, signer.buildAssetAction a = .error error ↔ signer.buildAssetAction b = .error error) ∧
    ((∃ signed, signer.buildAssetAction a = .ok signed) ↔
      ∃ signed, signer.buildAssetAction b = .ok signed) ∧
    ∀ signed signed', signer.buildAssetAction a = .ok signed →
      signer.buildAssetAction b = .ok signed' →
        ∃ json json', Json.parse? signed.text = some json ∧ Json.parse? signed'.text = some json' ∧
          json.hideUnsigned = json'.hideUnsigned := by
  have htransaction := h.transaction_eq
  refine ⟨handsOver_iff_of_transaction_eq htransaction, ?_, ?_, ?_⟩
  · intro error
    rw [buildAssetAction_eq_error_iff, buildAssetAction_eq_error_iff, htransaction]
  · simp only [buildAssetAction_eq_ok_iff, htransaction]
    constructor
    · rintro ⟨-, asset, signature, hasset, hsignature, -⟩
      exact ⟨_, asset, signature, hasset, hsignature, rfl⟩
    · rintro ⟨-, asset, signature, hasset, hsignature, -⟩
      exact ⟨_, asset, signature, hasset, hsignature, rfl⟩
  · intro signed signed' hsigned hsigned'
    obtain ⟨asset, signature, hasset, hsignature, rfl⟩ := buildAssetAction_eq_ok_iff.mp hsigned
    obtain ⟨asset', signature', hasset', hsignature', rfl⟩ :=
      buildAssetAction_eq_ok_iff.mp hsigned'
    obtain rfl : asset = asset' := Except.ok.inj (hasset.symm.trans (htransaction.trans hasset'))
    obtain rfl : signature = signature' := Except.ok.inj (hsignature.symm.trans hsignature')
    exact ⟨_, _, Json.parse?_render (asset.exact_wireJson _ _ _),
      Json.parse?_render (asset.exact_wireJson _ _ _), asset.hideUnsigned_wireJson _ _ _ _ _⟩

end Signer

/-- The freely spelled merge in another spelling, with a game, another note and components, which a
merge has no use for. -/
def AssetRequest.noisy : AssetRequest :=
  { groupedSpelled with
    metadata := (groupedSpelled.metadata.insert "note" "").insert componentsKey "\"\x7d,"
    gameId := "\x7b" }

/-- It agrees with the freely spelled merge in all that is signed. -/
theorem AssetRequest.agreesOnSigned_noisy :
    AgreesOnSigned Signer.zeros.publicKey freelySpelled noisy where
  action := rfl
  assetId := by
    have hplain : (FixedBytes.replicate 32 0x22).IsSpelledBy freelySpelled.assetId := rfl
    have hgrouped : (FixedBytes.replicate 32 0x22).IsSpelledBy noisy.assetId := rfl
    exact hplain.trans hgrouped.symm
  owner := Signer.zeros.publicKey.ofHex_toHex.symm
  density := rfl
  extra := {
    otherAsset := fun _ => by
      have hgiven : freelySpelled.metadata.get? otherAssetKey = some Address.spacedText := rfl
      have hgrouped : noisy.metadata.get? otherAssetKey =
          some (Address.mk (.replicate 32 0xab)).toHex := by
        change ((groupedSpelled.metadata.insert "note" "").insert componentsKey _).get? _ = _
        rw [Dictionary.get?_insert_of_ne _ (by decide), Dictionary.get?_insert_of_ne _ (by decide)]
        exact Dictionary.get?_insert_self _ _ _
      rw [hgiven, hgrouped]
      exact congrArg some
        (Address.isSpelledBy_spacedText.trans (FixedBytes.isSpelledBy_toHex _).symm)
    components := fun hsplit => absurd hsplit (by decide) }
  fee := rfl
  nonce := rfl
  scope := rfl

/-- Both merges are built, of one message, and their texts agree where nothing is hidden. -/
theorem Signer.unsigned_texts_noninterference_noisy :
    ∃ signed signed' json json', zeros.buildAssetAction .freelySpelled = .ok signed ∧
      zeros.buildAssetAction .noisy = .ok signed' ∧
      (∀ message,
        HandsOver (fun other => other.buildAssetAction .freelySpelled) zeros.publicKey message ↔
          HandsOver (fun other => other.buildAssetAction .noisy) zeros.publicKey message) ∧
      Json.parse? signed.text = some json ∧ Json.parse? signed'.text = some json' ∧
      json.hideUnsigned = json'.hideUnsigned := by
  obtain ⟨hmessage, -, hbuilds, hwritten⟩ :=
    unsigned_texts_noninterference zeros .freelySpelled .noisy AssetRequest.agreesOnSigned_noisy
  have hbuilt : ∃ signed, zeros.buildAssetAction .freelySpelled = .ok signed :=
    ⟨_, buildAssetAction_eq_ok_iff.mpr
      ⟨_, _, AssetRequest.transaction_freelySpelled zeros.publicKey, rfl, rfl⟩⟩
  obtain ⟨signed', hsigned'⟩ := hbuilds.mp hbuilt
  obtain ⟨signed, hsigned⟩ := hbuilt
  obtain ⟨json, json', hjson, hjson', heq⟩ := hwritten signed signed' hsigned hsigned'
  exact ⟨signed, signed', json, json', hsigned, hsigned', hmessage, hjson, hjson', heq⟩

end OfflineSigner

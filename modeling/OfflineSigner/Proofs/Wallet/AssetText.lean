import OfflineSigner.Proofs.Text.Utf8Order
import OfflineSigner.Proofs.Wallet.AssetReading

/-!
# The text of a signed action on an asset

Metadata and the game are texts of the caller's choice and may hold quotes, backslashes, braces and
controls. None of them can end a text early or add a member: whatever they hold, the signed text is
a single object with its members in a fixed order, and so is the body that submits it. The metadata
is found there key by key, in the order of the keys' bytes, with the other asset of a merge in its
canonical spelling.
-/

namespace OfflineSigner

namespace AssetExtra

/-- The other asset of a merge. -/
def partner? : AssetExtra → Option AssetId
  | merge otherAsset => some otherAsset
  | _ => Option.none

/-- A merge takes its other asset from the text under the reserved key, if there is one. -/
theorem ofMetadata_merge_eq_ok_iff {metadata : Metadata} {extra : AssetExtra} :
    ofMetadata .merge metadata = .ok extra ↔
      (metadata.get? otherAssetKey = Option.none ∧ extra = none) ∨
        ∃ text otherAsset, metadata.get? otherAssetKey = some text ∧
          FixedBytes.ofHex "other asset id" text = .ok otherAsset ∧ extra = merge otherAsset := by
  unfold ofMetadata
  cases hkey : metadata.get? otherAssetKey with
  | none => simp [eq_comm]
  | some text =>
    cases hread : (FixedBytes.ofHex "other asset id" text : Except ValueError AssetId) <;>
      simp [TransactionError.liftValue, Except.map, hread, eq_comm]

/-- Another asset is signed exactly when the action is a merge and the reserved key is there. -/
theorem isSome_partner?_iff {action : AssetAction} {metadata : Metadata} {extra : AssetExtra}
    (h : ofMetadata action metadata = .ok extra) :
    extra.partner?.isSome = true ↔
      action = .merge ∧ (metadata.get? otherAssetKey).isSome = true := by
  by_cases haction : action = .merge
  · subst haction
    rcases ofMetadata_merge_eq_ok_iff.mp h with ⟨hkey, rfl⟩ | ⟨text, otherAsset, hkey, -, rfl⟩
    · simp [partner?, hkey]
    · simp [partner?, hkey]
  · cases extra with
    | merge otherAsset => exact absurd (eq_merge_of_ofMetadata h) haction
    | none => simp [partner?, haction]
    | split components => simp [partner?, haction]

/-- The bytes of the other asset are the auxiliary bytes of a merge. -/
theorem bytesFor_merge_of_partner? {extra : AssetExtra} {otherAsset : AssetId}
    (h : extra.partner? = some otherAsset) : extra.bytesFor .merge = otherAsset.toList := by
  cases extra with
  | merge other =>
    obtain rfl := Option.some.inj h
    rfl
  | none => contradiction
  | split components => contradiction

/-- What is written under a key is what the metadata holds there, but for the other asset of a
merge, which is written as it is signed. -/
theorem get?_rendered {action : AssetAction} {metadata : Metadata} {extra : AssetExtra}
    (h : ofMetadata action metadata = .ok extra) (key : String) :
    (metadata.rendered extra).get? key =
      if action = .merge ∧ key = otherAssetKey then extra.partner?.map FixedBytes.toHex
      else metadata.get? key := by
  split
  · rename_i hreserved
    obtain ⟨rfl, rfl⟩ := hreserved
    rcases ofMetadata_merge_eq_ok_iff.mp h with ⟨hkey, rfl⟩ | ⟨text, otherAsset, -, -, rfl⟩
    · exact hkey
    · exact Dictionary.get?_insert_self metadata otherAssetKey _
  · rename_i hfree
    cases extra with
    | merge otherAsset =>
      have hne : key ≠ otherAssetKey := fun hkey => hfree ⟨eq_merge_of_ofMetadata h, hkey⟩
      exact Dictionary.get?_insert_of_ne metadata hne _
    | none => rfl
    | split components => rfl

end AssetExtra

/-- The body that submits a written value is an object whose single member is that value. -/
theorem SignedText.parse?_submissionBody {json : Json} (h : json.Exact) :
    Json.parse? (SignedText.mk json.render).submissionBody =
      some (.object [("transaction", json)]) := by
  have hbody : (SignedText.mk json.render).submissionBody =
      (Json.tagged "transaction" json).render := by
    apply String.toList_inj.mp
    change ("\x7b\"transaction\":" ++ json.render ++ "\x7d").toList = _
    simp only [Json.render, Json.tagged, Json.chars, Json.memberChars, String.toList_append,
      String.toList_ofList]
    rfl
  rw [hbody]
  exact Json.parse?_render (Json.exact_object_iff.mpr (by simpa using h))

/-- The signed text of an action on an asset is an object whose members are exactly these, once
each and in this order, and submitting it wraps that object as the only member of another one. Its
metadata holds under every key what the request holds there, except that a merge whose reserved key
is present has the canonical spelling of the asset id that was signed; the keys stand in strictly
increasing order of their UTF-8 bytes. The game is null when the request has none, and the
request's game otherwise. -/
theorem Signer.parse?_buildAssetAction (signer : Signer) (request : AssetRequest)
    (signed : SignedText) (h : signer.buildAssetAction request = .ok signed) :
    ∃ (json : Json) (asset : AssetTransaction) (signature : Signature)
        (entries : List (String × String)) (game : Json),
      Json.parse? signed.text = some json ∧
      Json.parse? signed.submissionBody = some (.object [("transaction", json)]) ∧
      json = .object [("MistbornAsset", .object [
        ("from", .string signer.publicKey.toHex),
        ("action", .string request.action.name),
        ("asset_id", .string asset.assetId.toHex),
        ("data", .object [
          ("density", .string request.density.name),
          ("metadata", .object (entries.map fun entry => (entry.1, .string entry.2))),
          ("attributes", .array []),
          ("game_id", game),
          ("owner", .string asset.owner.toHex)]),
        ("fee", .integer request.fee.toNat),
        ("nonce", .integer request.nonce.toNat),
        ("signature", .string signature.toHex)])] ∧
      request.transaction signer.publicKey = .ok asset ∧
      signer.sign asset.payload = .ok signature ∧
      (∀ key, entries.lookup key =
        if request.action = .merge ∧ key = otherAssetKey then
          asset.extra.partner?.map FixedBytes.toHex
        else request.metadata.get? key) ∧
      (asset.extra.partner?.isSome = true ↔
        request.action = .merge ∧ (request.metadata.get? otherAssetKey).isSome = true) ∧
      (∀ partner, asset.extra.partner? = some partner → asset.extraBytes = partner.toList) ∧
      (entries.Pairwise fun a b => utf8 a.1 < utf8 b.1) ∧
      (game = .null ↔ request.gameId = "") ∧
      (request.gameId ≠ "" → game = .string request.gameId) := by
  obtain ⟨asset, signature, hasset, hsignature, rfl⟩ := buildAssetAction_eq_ok_iff.mp h
  have hexact := asset.exact_wireJson request.metadata request.gameId signature
  have htransaction := hasset
  obtain ⟨assetId, owner, extra, -, -, hextra, rfl⟩ := AssetRequest.transaction_eq_ok_iff.mp hasset
  refine ⟨_, _, signature, (request.metadata.rendered extra).toList,
    if request.gameId.isEmpty then .null else .string request.gameId, Json.parse?_render hexact,
    SignedText.parse?_submissionBody hexact, rfl, htransaction, hsignature,
    AssetExtra.get?_rendered hextra, AssetExtra.isSome_partner?_iff hextra, ?_,
    Dictionary.pairwise_utf8 _, ?_, ?_⟩
  · intro partner hpartner
    have hmerge := ((AssetExtra.isSome_partner?_iff hextra).mp (by rw [hpartner]; rfl)).1
    change extra.bytesFor request.action = partner.toList
    rw [hmerge]
    exact AssetExtra.bytesFor_merge_of_partner? hpartner
  · by_cases hgame : request.gameId = "" <;> simp [hgame]
  · intro hgame
    simp [hgame]

/-- A merge whose metadata and game try to close the texts and objects around them. -/
def AssetRequest.hostile : AssetRequest :=
  ⟨.merge, "2222222222222222222222222222222222222222222222222222222222222222", none, .dense,
    .ofList [("\"\x7d,\"fee\":0,\"", "\\\"\n\x01"), ("", "\x7b"), (otherAssetKey,
      " ABABABABABABABAB ABABABABABABABAB abababababababab abababababababab ")],
    "\"\x7d\x7d", 5, 3, ⟨none, some 9⟩⟩

/-- The hostile merge is built, its text and the body that submits it are read, and its game stands
there as it was given. -/
theorem Signer.parse?_hostile :
    ∃ signed, zeros.buildAssetAction .hostile = .ok signed ∧
      ∃ json game, Json.parse? signed.text = some json ∧
        Json.parse? signed.submissionBody = some (.object [("transaction", json)]) ∧
        (json.member? "MistbornAsset").bind (fun content => (content.member? "data").bind
          fun data => data.member? "game_id") = some game ∧
        game = .string "\"\x7d\x7d" := by
  obtain ⟨signed, hbuilt⟩ : ∃ signed, zeros.buildAssetAction .hostile = .ok signed :=
    ⟨_, buildAssetAction_eq_ok_iff.mpr
      ⟨⟨zeros.publicKey, .merge, .replicate 32 0x22, zeros.publicKey, .dense,
        .merge (.replicate 32 0xab), 5, 3, ⟨none, some 9⟩⟩, _, rfl, rfl, rfl⟩⟩
  obtain ⟨json, asset, signature, entries, game, hparse, hbody, rfl, -, -, -, -, -, -, -, hgame⟩ :=
    parse?_buildAssetAction zeros .hostile signed hbuilt
  exact ⟨signed, hbuilt, _, game, hparse, hbody, rfl, hgame (by decide)⟩

end OfflineSigner

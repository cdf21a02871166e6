import OfflineSigner.Proofs.Wallet.AssetText
import OfflineSigner.Proofs.Wallet.TransferReading

/-!
# Spellings leave no trace in what is built

Hexadecimal text may be typed in capitals, in groups and between blanks. A builder reads it first
and signs and writes nothing but the bytes that were read, so requests that differ in such spellings
alone have the same result to the last character. One of these spellings is the canonical one, which
is what the result shows. Hence what is read from a result asks for that result again.
-/

namespace OfflineSigner

/-- Two texts that spell the same `n` bytes. -/
def Hex.SpellSame (n : Nat) (text text' : String) : Prop :=
  ∃ value : FixedBytes n, value.IsSpelledBy text ∧ value.IsSpelledBy text'

/-- Metadata in which the keys that an action looks at hold the same: the other asset of a merge is
named in both, in texts that decode alike, or in none, and so are the components of a split, word
for word. Nothing is asked of any other key. -/
structure Metadata.AgreesOnExtra (action : AssetAction) (a b : Metadata) : Prop where
  otherAsset : action = .merge →
    (a.get? otherAssetKey).map Hex.decode = (b.get? otherAssetKey).map Hex.decode
  components : action = .split → a.get? componentsKey = b.get? componentsKey

/-- The same auxiliary data is taken from both, or both are refused alike. -/
theorem Metadata.AgreesOnExtra.ofMetadata_eq {action : AssetAction} {a b : Metadata}
    (h : AgreesOnExtra action a b) :
    AssetExtra.ofMetadata action a = AssetExtra.ofMetadata action b := by
  cases action with
  | merge =>
    have hnamed := h.otherAsset rfl
    rw [AssetExtra.ofMetadata, AssetExtra.ofMetadata]
    rcases ha : a.get? otherAssetKey with _ | text
    · rw [ha, Option.map_none, eq_comm, Option.map_eq_none_iff] at hnamed
      rw [hnamed]
    · rw [ha, Option.map_some, eq_comm, Option.map_eq_some_iff] at hnamed
      obtain ⟨text', hb, hdecode⟩ := hnamed
      simp only [hb, FixedBytes.ofHex_eq_of_decode_eq hdecode]
  | split => rw [AssetExtra.ofMetadata, AssetExtra.ofMetadata, h.components rfl]
  | create => rfl
  | update => rfl
  | condense => rfl
  | evaporate => rfl

/-- Metadata that holds the same under every key; but two spellings of the other asset of a merge
count as the same. -/
def Metadata.Respells (action : AssetAction) (a b : Metadata) : Prop :=
  ∀ key, a.get? key = b.get? key ∨
    (action = .merge ∧ key = otherAssetKey ∧ ∃ text text', a.get? key = some text ∧
      b.get? key = some text' ∧ Hex.SpellSame 32 text text')

namespace Metadata.Respells

variable {action : AssetAction} {a b : Metadata}

/-- Outside merges and under other keys the same is found. -/
theorem get?_eq (h : Respells action a b) {key : String}
    (hfree : ¬ (action = .merge ∧ key = otherAssetKey)) : a.get? key = b.get? key :=
  (h key).resolve_right fun hrespelled => hfree ⟨hrespelled.1, hrespelled.2.1⟩

/-- What an action looks at is the same in both. -/
theorem agreesOnExtra (h : Respells action a b) : a.AgreesOnExtra action b where
  otherAsset := by
    rintro rfl
    rcases h otherAssetKey with hsame | ⟨-, -, text, text', ha, hb, value, htext, htext'⟩
    · rw [hsame]
    · rw [ha, hb, Option.map_some, Option.map_some, htext, htext']
  components := by
    rintro rfl
    exact h.get?_eq (by simp)

/-- Both are written alike. -/
theorem rendered_eq (h : Respells action a b) {extra : AssetExtra}
    (hextra : AssetExtra.ofMetadata action a = .ok extra) : a.rendered extra = b.rendered extra := by
  apply Dictionary.ext_get?
  intro key
  rw [AssetExtra.get?_rendered hextra,
    AssetExtra.get?_rendered (h.agreesOnExtra.ofMetadata_eq ▸ hextra)]
  split
  · rfl
  · next hfree => exact h.get?_eq hfree

/-- What is written respells what was given. -/
theorem rendered {extra : AssetExtra} (hextra : AssetExtra.ofMetadata action a = .ok extra) :
    Respells action a (a.rendered extra) := by
  intro key
  rw [AssetExtra.get?_rendered hextra]
  split
  · next hreserved =>
    obtain ⟨rfl, rfl⟩ := hreserved
    rcases AssetExtra.ofMetadata_merge_eq_ok_iff.mp hextra with
      ⟨hkey, rfl⟩ | ⟨text, otherAsset, hkey, hread, rfl⟩
    · exact Or.inl hkey
    · have hspelled := FixedBytes.ofHex_eq_ok_iff.mp hread
      exact Or.inr ⟨rfl, rfl, text, otherAsset.toHex, hkey, rfl, otherAsset, hspelled,
        otherAsset.isSpelledBy_toHex⟩
  · exact Or.inl rfl

end Metadata.Respells

namespace AssetRequest

/-- Requests that mean the same when the account signs: what is not spelled in hexadecimal agrees,
and what is has the same bytes, the signer being meant where no owner is given. -/
structure Respells (account : Address) (a b : AssetRequest) : Prop where
  action : a.action = b.action
  assetId : Hex.SpellSame 32 a.assetId b.assetId
  owner : ∃ owner, a.resolveOwner account = .ok owner ∧ b.resolveOwner account = .ok owner
  density : a.density = b.density
  metadata : a.metadata.Respells a.action b.metadata
  gameId : a.gameId = b.gameId
  fee : a.fee = b.fee
  nonce : a.nonce = b.nonce
  scope : a.scope = b.scope

/-- They mean the same transaction or fail for the same reason. -/
theorem Respells.transaction_eq {account : Address} {a b : AssetRequest}
    (h : Respells account a b) : a.transaction account = b.transaction account := by
  obtain ⟨assetId, hassetId, hassetId'⟩ := h.assetId
  obtain ⟨owner, howner, howner'⟩ := h.owner
  have hextra := h.metadata.agreesOnExtra.ofMetadata_eq
  rw [h.action] at hextra
  rw [transaction, transaction, FixedBytes.ofHex_eq_ok_iff.mpr hassetId,
    FixedBytes.ofHex_eq_ok_iff.mpr hassetId', howner, howner', h.action, h.density, h.fee, h.nonce,
    h.scope, hextra]

/-- Reads the game; no game is the empty text. -/
def readGame : Json → Except DecodeError String
  | .null => .ok ""
  | other => other.readString

/-- The request that the written form of a signed action makes when it is read under a scope: every
text as it is written, and the owner named. -/
def ofWire? (scope : ChainScope) (json : Json) : Option AssetRequest := do
  let content ← json.member? "MistbornAsset"
  let data ← content.member? "data"
  let action ← content.field? "action" AssetAction.ofJson
  let assetId ← content.field? "asset_id" Json.readString
  let owner ← data.field? "owner" Json.readString
  let density ← data.field? "density" Density.ofJson
  let metadata ← data.field? "metadata" Metadata.ofJson
  let gameId ← data.field? "game_id" readGame
  let fee ← content.field? "fee" Json.readUInt64
  let nonce ← content.field? "nonce" Json.readUInt64
  return ⟨action, assetId, some owner, density, metadata, gameId, fee, nonce, scope⟩

/-- The request that is read from the written form of a signed action. -/
theorem ofWire?_wireJson (asset : AssetTransaction) (metadata : Metadata) (gameId : String)
    (signature : Signature) :
    ofWire? asset.scope (asset.wireJson metadata gameId signature) =
      some ⟨asset.action, asset.assetId.toHex, some asset.owner.toHex, asset.density,
        metadata.rendered asset.extra, gameId, asset.fee, asset.nonce, asset.scope⟩ := by
  have hgame : readGame (if gameId = "" then Json.null else .string gameId) = .ok gameId := by
    split
    · next hempty => rw [hempty, readGame]
    · rfl
  simp [ofWire?, AssetTransaction.wireJson, Json.tagged, Json.field?, Json.member?,
    List.lookup_cons, hgame, Json.readString, Address.toJson, Except.toOption]

/-- It respells the request that was signed. -/
theorem respells_read {request : AssetRequest} {account : Address} {asset : AssetTransaction}
    (h : request.transaction account = .ok asset) :
    request.Respells account ⟨asset.action, asset.assetId.toHex, some asset.owner.toHex,
      asset.density, request.metadata.rendered asset.extra, request.gameId, asset.fee, asset.nonce,
      asset.scope⟩ := by
  obtain ⟨assetId, owner, extra, hassetId, howner, hextra, rfl⟩ := transaction_eq_ok_iff.mp h
  exact {
    action := rfl
    assetId := ⟨assetId, FixedBytes.ofHex_eq_ok_iff.mp hassetId, assetId.isSpelledBy_toHex⟩
    owner := ⟨owner, howner, owner.ofHex_toHex⟩
    density := rfl
    metadata := .rendered hextra
    gameId := rfl
    fee := rfl
    nonce := rfl
    scope := rfl }

end AssetRequest

namespace SignedText

/-- The request that is read from a signed action under a scope. -/
def readRequest? (signed : SignedText) (scope : ChainScope) : Option AssetRequest :=
  (Json.parse? signed.text).bind (AssetRequest.ofWire? scope)

/-- The text of the recipient, the amount, the fee and the counter that are read from a signed
transfer. -/
def readTransfer? (signed : SignedText) : Option (String × UInt64 × UInt64 × UInt64) := do
  let json ← Json.parse? signed.text
  let content ← json.member? "Transfer"
  let recipient ← content.field? "to" Json.readString
  let amountText ← content.field? "amount" Json.readString
  let feeText ← content.field? "fee" Json.readString
  let amount ← (Decimal.readUInt64 amountText).toOption
  let fee ← (Decimal.readUInt64 feeText).toOption
  let nonce ← content.field? "nonce" Json.readUInt64
  return (recipient, amount, fee, nonce)

/-- A signed transfer shows the canonical text of the recipient and the numbers that were given. -/
theorem readTransfer?_wireJson (transfer : Transfer) (signature : Signature) :
    readTransfer? ⟨(transfer.wireJson signature).render⟩ =
      some (transfer.recipient.toHex, transfer.amount, transfer.fee, transfer.nonce) := by
  rw [readTransfer?, Json.parse?_render (transfer.exact_wireJson signature)]
  simp [Transfer.wireJson, Json.tagged, Json.field?, Json.member?, List.lookup_cons,
    Json.readString, Address.toJson, Decimal.readUInt64_ofNat, Except.toOption]

end SignedText

namespace Signer

variable {signer : Signer}

/-- Respelled requests have the same result. -/
theorem buildAssetAction_eq_of_respells {a b : AssetRequest}
    (h : a.Respells signer.publicKey b) : signer.buildAssetAction a = signer.buildAssetAction b := by
  have htransaction := h.transaction_eq
  rcases hasset : a.transaction signer.publicKey with error | asset
  · rw [buildAssetAction, buildAssetAction, ← htransaction, hasset, Except.error_bind,
      Except.error_bind]
  · obtain ⟨assetId, owner, extra, -, -, hextra, rfl⟩ :=
      AssetRequest.transaction_eq_ok_iff.mp hasset
    -- The signer is asked to sign the same bytes; what is left of the texts is the written metadata.
    have ha := buildAssetAction_of_transaction hasset signer.sign
    have hb := buildAssetAction_of_transaction (htransaction ▸ hasset) signer.sign
    refine ha.trans (Eq.trans ?_ hb.symm)
    simp only [AssetTransaction.wireJson, h.metadata.rendered_eq hextra, h.gameId]

variable {recipient recipient' : String} {amount fee nonce : UInt64} {scope : ChainScope}

/-- A recipient text that decodes alike makes no difference. -/
theorem buildTransfer_eq_of_decode_eq (h : Hex.decode recipient = Hex.decode recipient') :
    signer.buildTransfer recipient amount fee nonce scope =
      signer.buildTransfer recipient' amount fee nonce scope := by
  have hread : Address.ofHex recipient = Address.ofHex recipient' := by
    rw [Address.ofHex, Address.ofHex, FixedBytes.ofHex_eq_of_decode_eq h]
  rw [buildTransfer, buildTransfer, Transfer.toHexRecipient, Transfer.toHexRecipient, hread]

/-- What is read from a signed action asks for it again. -/
theorem buildAssetAction_readRequest? {request : AssetRequest} {signed : SignedText}
    (h : signer.buildAssetAction request = .ok signed) :
    ∃ again, signed.readRequest? request.scope = some again ∧
      signer.buildAssetAction again = .ok signed := by
  obtain ⟨asset, signature, hasset, -, rfl⟩ := buildAssetAction_eq_ok_iff.mp h
  have hscope : request.scope = asset.scope := by
    obtain ⟨assetId, owner, extra, -, -, -, rfl⟩ := AssetRequest.transaction_eq_ok_iff.mp hasset
    rfl
  refine ⟨_, ?_, (buildAssetAction_eq_of_respells (AssetRequest.respells_read hasset)).symm.trans h⟩
  rw [SignedText.readRequest?, Json.parse?_render (asset.exact_wireJson _ _ _), hscope,
    Option.bind_some, AssetRequest.ofWire?_wireJson]

/-- What is read from a signed transfer asks for it again. -/
theorem buildTransfer_readTransfer? {signed : SignedText}
    (h : signer.buildTransfer recipient amount fee nonce scope = .ok signed) :
    ∃ again, signed.readTransfer? = some (again, amount, fee, nonce) ∧
      signer.buildTransfer again amount fee nonce scope = .ok signed := by
  obtain ⟨key, signature, hkey, -, rfl⟩ := buildTransfer_eq_ok_iff.mp h
  have hspelled : key.bytes.IsSpelledBy recipient := Address.ofHex_eq_ok_iff.mp hkey
  have hsame : Hex.decode recipient = Hex.decode key.toHex :=
    hspelled.trans key.bytes.isSpelledBy_toHex.symm
  exact ⟨key.toHex, SignedText.readTransfer?_wireJson _ signature,
    (buildTransfer_eq_of_decode_eq hsame).symm.trans h⟩

/-- Builders are canonical: requests that mean the same have the same result to the last character,
be it a text or an error, and so have transfers to recipients whose texts decode alike. The values
that are read from a result, under the scope of its request, have that very result again. -/
theorem builds_canonically (signer : Signer) :
    (∀ a b : AssetRequest, a.Respells signer.publicKey b →
      signer.buildAssetAction a = signer.buildAssetAction b) ∧
    (∀ (recipient recipient' : String) (amount fee nonce : UInt64) (scope : ChainScope),
      Hex.decode recipient = Hex.decode recipient' →
        signer.buildTransfer recipient amount fee nonce scope =
          signer.buildTransfer recipient' amount fee nonce scope) ∧
    (∀ (request : AssetRequest) (signed : SignedText),
      signer.buildAssetAction request = .ok signed →
        ∃ again, signed.readRequest? request.scope = some again ∧
          signer.buildAssetAction again = .ok signed) ∧
    ∀ (recipient : String) (amount fee nonce : UInt64) (scope : ChainScope) (signed : SignedText),
      signer.buildTransfer recipient amount fee nonce scope = .ok signed →
        ∃ again amount' fee' nonce',
          signed.readTransfer? = some (again, amount', fee', nonce') ∧
          signer.buildTransfer again amount' fee' nonce' scope = .ok signed := by
  refine ⟨?_, ?_, ?_, ?_⟩
  · intro a b h
    exact buildAssetAction_eq_of_respells h
  · intro recipient recipient' amount fee nonce scope h
    exact buildTransfer_eq_of_decode_eq h
  · intro request signed h
    exact buildAssetAction_readRequest? h
  · intro recipient amount fee nonce scope signed h
    obtain ⟨again, hread, hagain⟩ := buildTransfer_readTransfer? h
    exact ⟨again, amount, fee, nonce, hread, hagain⟩

end Signer

/-- The freely spelled text is a spelling of the account. -/
theorem Address.isSpelledBy_spacedText :
    (FixedBytes.replicate 32 0xab).IsSpelledBy Address.spacedText := by
  rfl

/-- The freely spelled merge in another spelling: the asset in groups and before the end of a line,
the signer named as the owner, and the other asset in canonical spelling. -/
def AssetRequest.groupedSpelled : AssetRequest :=
  { freelySpelled with
    assetId := "2222222222222222 2222222222222222 2222222222222222 2222222222222222\n"
    owner := some Signer.zeros.publicKey.toHex
    metadata := freelySpelled.metadata.insert otherAssetKey (Address.mk (.replicate 32 0xab)).toHex }

/-- The two merges mean the same. -/
theorem AssetRequest.respells_groupedSpelled :
    freelySpelled.Respells Signer.zeros.publicKey groupedSpelled where
  action := rfl
  assetId := ⟨.replicate 32 0x22, rfl, rfl⟩
  owner := ⟨Signer.zeros.publicKey, rfl, Signer.zeros.publicKey.ofHex_toHex⟩
  density := rfl
  metadata := by
    intro key
    by_cases hother : key = otherAssetKey
    · have hgiven : freelySpelled.metadata.get? otherAssetKey = some Address.spacedText := rfl
      have hspelled : Hex.SpellSame 32 Address.spacedText
          (Address.mk (.replicate 32 0xab)).toHex :=
        ⟨.replicate 32 0xab, Address.isSpelledBy_spacedText, FixedBytes.isSpelledBy_toHex _⟩
      subst hother
      exact Or.inr ⟨rfl, rfl, _, _, hgiven, Dictionary.get?_insert_self _ _ _, hspelled⟩
    · exact Or.inl (Dictionary.get?_insert_of_ne _ hother _).symm
  gameId := rfl
  fee := rfl
  nonce := rfl
  scope := rfl

/-- The two merges have the same signed text, and what is read from it has that text again; so it is
with a transfer to the freely spelled recipient and one to the canonical spelling. -/
theorem Signer.builds_canonically_groupedSpelled :
    zeros.buildAssetAction .freelySpelled = zeros.buildAssetAction .groupedSpelled ∧
    zeros.buildTransfer Address.spacedText 1 2 3 .unscoped =
      zeros.buildTransfer (Address.mk (.replicate 32 0xab)).toHex 1 2 3 .unscoped ∧
    (∃ signed again, zeros.buildAssetAction .freelySpelled = .ok signed ∧
      signed.readRequest? ⟨some 7, none⟩ = some again ∧
        zeros.buildAssetAction again = .ok signed) ∧
    ∃ signed again amount fee nonce,
      zeros.buildTransfer Address.spacedText 1 2 3 .unscoped = .ok signed ∧
        signed.readTransfer? = some (again, amount, fee, nonce) ∧
          zeros.buildTransfer again amount fee nonce .unscoped = .ok signed := by
  obtain ⟨hasset, htransfer, hassetAgain, htransferAgain⟩ := builds_canonically zeros
  obtain ⟨signed, hbuilt⟩ : ∃ signed, zeros.buildAssetAction .freelySpelled = .ok signed :=
    ⟨_, buildAssetAction_eq_ok_iff.mpr
      ⟨_, _, AssetRequest.transaction_freelySpelled zeros.publicKey, rfl, rfl⟩⟩
  have hrecipient : Address.ofHex Address.spacedText = .ok ⟨.replicate 32 0xab⟩ :=
    Address.ofHex_eq_ok_iff.mpr Address.isSpelledBy_spacedText
  have hdecode : Hex.decode Address.spacedText =
      Hex.decode (Address.mk (.replicate 32 0xab)).toHex :=
    Address.isSpelledBy_spacedText.trans (FixedBytes.isSpelledBy_toHex _).symm
  obtain ⟨signed', hbuilt'⟩ :
      ∃ signed, zeros.buildTransfer Address.spacedText 1 2 3 .unscoped = .ok signed :=
    ⟨_, buildTransfer_eq_ok_iff.mpr ⟨_, _, hrecipient, rfl, rfl⟩⟩
  obtain ⟨again, hread, hagain⟩ := hassetAgain _ signed hbuilt
  obtain ⟨again', amount, fee, nonce, hread', hagain'⟩ := htransferAgain _ _ _ _ _ signed' hbuilt'
  exact ⟨hasset _ _ AssetRequest.respells_groupedSpelled, htransfer _ _ 1 2 3 .unscoped hdecode,
    ⟨signed, again, hbuilt, hread, hagain⟩,
    ⟨signed', again', amount, fee, nonce, hbuilt', hread', hagain'⟩⟩

end OfflineSigner

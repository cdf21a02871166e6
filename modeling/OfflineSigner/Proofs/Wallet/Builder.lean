import OfflineSigner.Proofs.Data.Except
import OfflineSigner.Wallet.Builder

/-!
# What a builder hands to the signer

A builder asks the signer for the signature of a single message and makes its result of the answer
alone. Which message that is follows from how the result depends on the signer, so it is stated
about every way to sign under the same key.
-/

namespace OfflineSigner

/-- A value passes into a transaction exactly when it was not refused. -/
theorem TransactionError.liftValue_eq_ok_iff {α : Type} {value : α}
    {outcome : Except ValueError α} : liftValue outcome = .ok value ↔ outcome = .ok value := by
  cases outcome <;> simp [liftValue]

namespace WalletError

variable {α : Type} {value : α}

/-- A value passes as such exactly when it was not refused. -/
theorem liftValue_eq_ok_iff {outcome : Except ValueError α} :
    liftValue outcome = .ok value ↔ outcome = .ok value := by
  cases outcome <;> simp [liftValue]

/-- A key or signature passes as such exactly when there is one. -/
theorem liftKey_eq_ok_iff {outcome : Except KeyError α} :
    liftKey outcome = .ok value ↔ outcome = .ok value := by
  cases outcome <;> simp [liftKey]

/-- A part of a transaction passes as such exactly when there is one. -/
theorem liftTransaction_eq_ok_iff {outcome : Except TransactionError α} :
    liftTransaction outcome = .ok value ↔ outcome = .ok value := by
  cases outcome <;> simp [liftTransaction]

end WalletError

/-- A request means a transaction exactly when its texts are read as the parts that it has beside
what the request gives as it is. -/
theorem AssetRequest.transaction_eq_ok_iff {request : AssetRequest} {account : Address}
    {asset : AssetTransaction} :
    request.transaction account = .ok asset ↔
      ∃ assetId owner extra,
        FixedBytes.ofHex "asset id" request.assetId = .ok assetId ∧
        request.resolveOwner account = .ok owner ∧
        AssetExtra.ofMetadata request.action request.metadata = .ok extra ∧
        asset = ⟨account, request.action, assetId, owner, request.density, extra, request.fee,
          request.nonce, request.scope⟩ := by
  simp only [transaction, Except.bind_eq_ok_iff, WalletError.liftValue_eq_ok_iff,
    WalletError.liftTransaction_eq_ok_iff]
  constructor
  · rintro ⟨assetId, hassetId, owner, howner, extra, hextra, hasset⟩
    exact ⟨assetId, owner, extra, hassetId, howner, hextra, (Except.ok.inj hasset).symm⟩
  · rintro ⟨assetId, owner, extra, hassetId, howner, hextra, rfl⟩
    exact ⟨assetId, hassetId, owner, howner, extra, hextra, rfl⟩

/-- Whatever is requested, the transaction is sent from the account that asks for it. -/
theorem AssetRequest.sender_of_transaction {request : AssetRequest} {account : Address}
    {asset : AssetTransaction} (h : request.transaction account = .ok asset) :
    asset.sender = account := by
  obtain ⟨assetId, owner, extra, -, -, -, rfl⟩ := transaction_eq_ok_iff.mp h
  rfl

namespace Signer

/-- The message that a builder hands to the signer of an account: whatever way to sign is asked,
the result is made of its answer to this message. -/
def HandsOver (build : Signer → Except WalletError SignedText) (account : Address)
    (message : List UInt8) : Prop :=
  ∃ write : Signature → SignedText, ∀ sign : List UInt8 → Except KeyError Signature,
    build ⟨account, sign⟩ = (WalletError.liftKey (sign message)).map write

/-- A builder hands over a single message. -/
theorem HandsOver.unique {build : Signer → Except WalletError SignedText} {account : Address}
    {message message' : List UInt8} (h : HandsOver build account message)
    (h' : HandsOver build account message') : message = message' := by
  obtain ⟨write, hwrite⟩ := h
  obtain ⟨write', hwrite'⟩ := h'
  by_cases heq : message = message'
  · exact heq
  · -- A way to sign that fails for the one message and answers the other one tells them apart.
    let sign (asked : List UInt8) : Except KeyError Signature :=
      if asked = message then .error .signingUnavailable else .ok ⟨.replicate 64 0⟩
    have hfails := hwrite sign
    have hanswers := hwrite' sign
    have hother : sign message' = .ok ⟨.replicate 64 0⟩ := if_neg (Ne.symm heq)
    have hsame : sign message = .error .signingUnavailable := if_pos rfl
    rw [hfails, hsame, hother] at hanswers
    contradiction

/-- A signer that gives 64 zeros for every message. -/
def zeros : Signer :=
  (BrokenSigning.zeros 64).signer ⟨.replicate 32 1⟩

/-- A message that is handed over is the only one. -/
theorem HandsOver.iff_eq {build : Signer → Except WalletError SignedText} {account : Address}
    {payload : List UInt8} (h : HandsOver build account payload) (message : List UInt8) :
    HandsOver build account message ↔ message = payload := by
  constructor
  · intro hmessage
    exact hmessage.unique h
  · rintro rfl
    exact h

/-- Whatever the signer, the result of an action on an asset is made of its answer to the signed
bytes of the transaction that the request means. -/
theorem buildAssetAction_of_transaction {request : AssetRequest} {account : Address}
    {asset : AssetTransaction} (h : request.transaction account = .ok asset)
    (sign : List UInt8 → Except KeyError Signature) :
    buildAssetAction ⟨account, sign⟩ request =
      (WalletError.liftKey (sign asset.payload)).map fun signature =>
        ⟨(asset.wireJson request.metadata request.gameId signature).render⟩ := by
  rw [buildAssetAction, h, Except.ok_bind]
  change (WalletError.liftKey (sign asset.payload) >>= _) = _
  cases WalletError.liftKey (sign asset.payload) <;> rfl

/-- The message handed over for an action on an asset is the signed bytes of the transaction that
the request means, and no other. -/
theorem handsOver_buildAssetAction_iff {request : AssetRequest} {account : Address}
    {asset : AssetTransaction} (h : request.transaction account = .ok asset)
    (message : List UInt8) :
    HandsOver (fun signer => signer.buildAssetAction request) account message ↔
      message = asset.payload := by
  have hpayload : HandsOver (fun signer => signer.buildAssetAction request) account asset.payload :=
    ⟨_, buildAssetAction_of_transaction h⟩
  exact hpayload.iff_eq message

/-- An action on an asset is built exactly when the request means a transaction and the signer
signs its bytes. -/
theorem buildAssetAction_eq_ok_iff {signer : Signer} {request : AssetRequest}
    {signed : SignedText} :
    signer.buildAssetAction request = .ok signed ↔
      ∃ asset signature, request.transaction signer.publicKey = .ok asset ∧
        signer.sign asset.payload = .ok signature ∧
        signed = ⟨(asset.wireJson request.metadata request.gameId signature).render⟩ := by
  simp only [buildAssetAction, Except.bind_eq_ok_iff, WalletError.liftKey_eq_ok_iff]
  constructor
  · rintro ⟨asset, hasset, signature, hsignature, hsigned⟩
    exact ⟨asset, signature, hasset, hsignature, (Except.ok.inj hsigned).symm⟩
  · rintro ⟨asset, signature, hasset, hsignature, rfl⟩
    exact ⟨asset, hasset, signature, hsignature, rfl⟩

variable {recipient : String} {amount fee nonce : UInt64} {scope : ChainScope}

/-- Whatever the signer, the result of a transfer is made of its answer to the signed bytes of the
transfer to the account that the text names. -/
theorem buildTransfer_of_recipient {account key : Address} (h : Address.ofHex recipient = .ok key)
    (sign : List UInt8 → Except KeyError Signature) :
    buildTransfer ⟨account, sign⟩ recipient amount fee nonce scope =
      (WalletError.liftKey (sign (Transfer.mk account key amount fee nonce scope).payload)).map
        fun signature =>
          ⟨((Transfer.mk account key amount fee nonce scope).wireJson signature).render⟩ := by
  rw [buildTransfer, Transfer.toHexRecipient, h]
  change (WalletError.liftKey (sign _) >>= _) = _
  cases WalletError.liftKey (sign (Transfer.mk account key amount fee nonce scope).payload) <;> rfl

/-- The message handed over for a transfer is the signed bytes of the transfer to the account that
the text names, and no other. -/
theorem handsOver_buildTransfer_iff {account key : Address} (h : Address.ofHex recipient = .ok key)
    (message : List UInt8) :
    HandsOver (fun signer => signer.buildTransfer recipient amount fee nonce scope) account message ↔
      message = (Transfer.mk account key amount fee nonce scope).payload := by
  have hpayload : HandsOver (fun signer => signer.buildTransfer recipient amount fee nonce scope)
      account (Transfer.mk account key amount fee nonce scope).payload :=
    ⟨_, buildTransfer_of_recipient h⟩
  exact hpayload.iff_eq message

/-- A transfer is built exactly when the text names an account and the signer signs the bytes of
the transfer to it. -/
theorem buildTransfer_eq_ok_iff {signer : Signer} {signed : SignedText} :
    signer.buildTransfer recipient amount fee nonce scope = .ok signed ↔
      ∃ key signature, Address.ofHex recipient = .ok key ∧
        signer.sign (Transfer.mk signer.publicKey key amount fee nonce scope).payload =
          .ok signature ∧
        signed =
          ⟨((Transfer.mk signer.publicKey key amount fee nonce scope).wireJson signature).render⟩ := by
  simp only [buildTransfer, Transfer.toHexRecipient, Except.bind_eq_ok_iff,
    WalletError.liftKey_eq_ok_iff, WalletError.liftTransaction_eq_ok_iff,
    TransactionError.liftValue_eq_ok_iff]
  constructor
  · rintro ⟨transfer, ⟨key, hkey, htransfer⟩, signature, hsignature, hsigned⟩
    cases htransfer
    exact ⟨key, signature, hkey, hsignature, (Except.ok.inj hsigned).symm⟩
  · rintro ⟨key, signature, hkey, hsignature, rfl⟩
    exact ⟨_, ⟨key, hkey, rfl⟩, signature, hsignature, rfl⟩

end Signer

end OfflineSigner

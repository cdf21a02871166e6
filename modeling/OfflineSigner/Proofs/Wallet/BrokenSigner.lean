import OfflineSigner.Proofs.Crypto.ZeroSignature
import OfflineSigner.Proofs.Transaction.OwnSignature
import OfflineSigner.Proofs.Wallet.AssetReading

/-!
# Signers with a broken primitive

A signer whose primitive is missing or gives zeros is meant to have no valid signature. It fails for
every message unless the zeros have the length of a signature. Then it gives the same signature for
every message, and this one passes where the challenge of the message fits the key. No key pair has
such a key: the order of its point is four or eight. Under any other key no builder that asks the
signer writes a signature that passes; under the key of zeros every fourth challenge fits.
-/

namespace OfflineSigner

open Ed25519

/-- The key of a pair is that of no point which a challenge takes to the point of the zeros. -/
theorem KeyPair.not_fitsZeros (pair : KeyPair) (message : List UInt8) :
    ¬ FitsZeros pair.address.bytes message := by
  rw [pair.address_eq]
  obtain ⟨point, hkey, hpoint⟩ := exists_decode?_publicKey pair.seed
  exact not_fitsZeros_of_represents hkey hpoint

/-- The zeros are accepted for a transaction whose message fits the key of the sender. -/
theorem Transaction.verify_zeroSignature_eq_ok_iff {transaction : Transaction} :
    transaction.verify ⟨zeroSignature⟩ = .ok () ↔
      FitsZeros transaction.sender.bytes transaction.payload := by
  rw [verify_eq_ok_iff, verify_zeroSignature_iff]

namespace BrokenSigning

variable {fault : BrokenSigning}

/-- Only zeros of the length of a signature are one. -/
theorem sign_eq_ok_iff {signature : Signature} :
    fault.sign = .ok signature ↔ fault = .zeros 64 ∧ signature = ⟨zeroSignature⟩ := by
  cases fault with
  | unavailable => simp [sign]
  | zeros length =>
    by_cases hlength : length = 64
    · subst hlength
      have hsign : (zeros 64).sign = .ok ⟨zeroSignature⟩ := rfl
      rw [hsign]
      simp [eq_comm]
    · simp [sign, Signature.ofRaw, Signature.ofBytes, FixedBytes.ofBytes, FixedBytes.ofList?,
        Except.map, hlength]

/-- A missing primitive is reported as such, and zeros of another length with their number. -/
theorem sign_eq_error_iff {error : KeyError} :
    fault.sign = .error error ↔
      (fault = .unavailable ∧ error = .signingUnavailable) ∨
        ∃ length, fault = .zeros length ∧ length ≠ 64 ∧ error = .malformedSignature length := by
  cases fault with
  | unavailable => simp [sign, eq_comm]
  | zeros length =>
    by_cases hlength : length = 64
    · subst hlength
      have hsign : (zeros 64).sign = .ok ⟨zeroSignature⟩ := rfl
      rw [hsign]
      simp
    · simp [sign, Signature.ofRaw, Signature.ofBytes, FixedBytes.ofBytes, FixedBytes.ofList?,
        Except.map, hlength, eq_comm]

/-- How a builder comes out that got a signature from a broken signer for a transaction. -/
structure GivesZeros (fault : BrokenSigning) (key : Address)
    (build : Signer → Except WalletError SignedText) (transaction : Transaction) : Prop where
  /-- The primitive gives zeros of the length of a signature. -/
  fault_eq : fault = .zeros 64
  /-- The transaction is sent from the account. -/
  sender_eq : transaction.sender = key
  /-- Its bytes are the message that the signer was asked for. -/
  handsOver : Signer.HandsOver build key transaction.payload
  /-- The zeros are accepted exactly when the message fits the key. -/
  verify_eq_ok_iff : transaction.verify ⟨zeroSignature⟩ = .ok () ↔
    FitsZeros key.bytes transaction.payload

/-- A transfer built for a broken signer is written with the zeros. -/
theorem givesZeros_of_buildTransfer {key : Address} {recipient : String}
    {amount fee nonce : UInt64} {scope : ChainScope} {signed : SignedText}
    (h : (fault.signer key).buildTransfer recipient amount fee nonce scope = .ok signed) :
    ∃ transfer : Transfer, signed = ⟨(transfer.wireJson ⟨zeroSignature⟩).render⟩ ∧
      fault.GivesZeros key
        (fun signer => signer.buildTransfer recipient amount fee nonce scope)
        (.transfer transfer) := by
  obtain ⟨account, signature, haccount, hsign, htext⟩ := Signer.buildTransfer_eq_ok_iff.mp h
  obtain ⟨hfault, hsignature⟩ := sign_eq_ok_iff.mp hsign
  rw [hsignature] at htext
  refine ⟨_, htext, hfault, rfl, ?_, ?_⟩
  · exact (Signer.handsOver_buildTransfer_iff haccount _).mpr rfl
  · exact Transaction.verify_zeroSignature_eq_ok_iff

/-- An action on an asset built for a broken signer is written with the zeros. -/
theorem givesZeros_of_buildAssetAction {key : Address} {request : AssetRequest}
    {signed : SignedText} (h : (fault.signer key).buildAssetAction request = .ok signed) :
    ∃ asset : AssetTransaction,
      signed = ⟨(asset.wireJson request.metadata request.gameId ⟨zeroSignature⟩).render⟩ ∧
      fault.GivesZeros key (fun signer => signer.buildAssetAction request) (.asset asset) := by
  obtain ⟨asset, signature, hasset, hsign, htext⟩ := Signer.buildAssetAction_eq_ok_iff.mp h
  obtain ⟨hfault, hsignature⟩ := sign_eq_ok_iff.mp hsign
  have hsender : asset.sender = key := AssetRequest.sender_of_transaction hasset
  rw [hsignature] at htext
  refine ⟨asset, htext, hfault, hsender, ?_, ?_⟩
  · exact (Signer.handsOver_buildAssetAction_iff hasset _).mpr rfl
  · rw [← hsender]
    exact Transaction.verify_zeroSignature_eq_ok_iff

/-- A broken signer has a valid signature only where zeros fit. It fails, for the reason that its
primitive has, unless this gives 64 zeros. These pass for the messages that fit the key alone, and a
message fits only keys of a point of order four or eight, so none fits the key of a key pair. What
builders write for such a signer is a transaction of its account with the zeros, and it is accepted
exactly when the message that they handed over fits. -/
theorem passes_only_where_zeros_fit (fault : BrokenSigning) (key : Address) :
    (∀ message signature, (fault.signer key).sign message = .ok signature →
      fault = .zeros 64 ∧ signature = ⟨zeroSignature⟩ ∧
        (signature.verify message key = true ↔ FitsZeros key.bytes message)) ∧
    (∀ message error, (fault.signer key).sign message = .error error ↔
      (fault = .unavailable ∧ error = .signingUnavailable) ∨
        ∃ length, fault = .zeros length ∧ length ≠ 64 ∧ error = .malformedSignature length) ∧
    (∀ message, FitsZeros key.bytes message →
      HasOrderDividing 8 key.bytes ∧ ¬ HasOrderDividing 2 key.bytes) ∧
    (∀ pair : KeyPair, pair.address = key → ∀ message, ¬ FitsZeros key.bytes message) ∧
    (∀ recipient amount fee nonce scope signed,
      (fault.signer key).buildTransfer recipient amount fee nonce scope = .ok signed →
        ∃ transfer : Transfer, signed = ⟨(transfer.wireJson ⟨zeroSignature⟩).render⟩ ∧
          fault.GivesZeros key
            (fun signer => signer.buildTransfer recipient amount fee nonce scope)
            (.transfer transfer)) ∧
    ∀ request signed, (fault.signer key).buildAssetAction request = .ok signed →
      ∃ asset : AssetTransaction,
        signed = ⟨(asset.wireJson request.metadata request.gameId ⟨zeroSignature⟩).render⟩ ∧
        fault.GivesZeros key (fun signer => signer.buildAssetAction request) (.asset asset) := by
  refine ⟨?_, ?_, ?_, ?_, ?_, ?_⟩
  · intro message signature hsign
    obtain ⟨hfault, hsignature⟩ := sign_eq_ok_iff.mp hsign
    refine ⟨hfault, hsignature, ?_⟩
    rw [hsignature]
    exact verify_zeroSignature_iff
  · intro message error
    exact sign_eq_error_iff
  · intro message hfits
    exact hfits.hasOrderDividing
  · intro pair hkey message
    rw [← hkey]
    exact pair.not_fitsZeros message
  · intro recipient amount fee nonce scope signed h
    exact givesZeros_of_buildTransfer h
  · intro request signed h
    exact givesZeros_of_buildAssetAction h

end BrokenSigning

/-- The account whose key is all zeros. -/
def Address.ofZeros : Address :=
  ⟨.replicate 32 0⟩

/-- The text of the account whose digits are all ones. -/
def Address.onesText : String :=
  "1111111111111111111111111111111111111111111111111111111111111111"

/-- It is read as that account. -/
theorem Address.ofHex_onesText : ofHex onesText = .ok ⟨.replicate 32 0x11⟩ :=
  ofHex_eq_ok_iff.mpr rfl

/-- A transfer of the account of zeros to the account of ones. -/
def Transfer.ofZeros : Transfer :=
  ⟨.ofZeros, ⟨.replicate 32 0x11⟩, 1000, 10, 3, .unscoped⟩

/-- The builder of this transfer. -/
def Signer.buildOfZeros (signer : Signer) : Except WalletError SignedText :=
  signer.buildTransfer Address.onesText 1000 10 3 .unscoped

/-- Built for a signer that gives 64 zeros, it is written with them. -/
theorem Signer.buildOfZeros_zeros : ((BrokenSigning.zeros 64).signer .ofZeros).buildOfZeros =
    .ok ⟨(Transfer.ofZeros.wireJson ⟨zeroSignature⟩).render⟩ :=
  buildTransfer_eq_ok_iff.mpr ⟨_, _, Address.ofHex_onesText, rfl, rfl⟩

namespace BrokenSigning

/-- The challenge of the transfer leaves three as the remainder by four. -/
theorem fitsZeros_payload_ofZeros : FitsZeros Address.ofZeros.bytes Transfer.ofZeros.payload :=
  fitsZeros_zeros_iff.mpr (by decide +kernel)

/-- For the account of zeros the transfer is built with zeros that are accepted; its key has the
order four; and the same message fits no key pair, whose transfers therefore are not accepted with
zeros. -/
theorem passes_only_where_zeros_fit_ofZeros :
    (∃ signed transfer, ((zeros 64).signer .ofZeros).buildOfZeros = .ok signed ∧
      (zeros 64).GivesZeros .ofZeros Signer.buildOfZeros (.transfer transfer) ∧
        (Transaction.transfer transfer).verify ⟨zeroSignature⟩ = .ok ()) ∧
    (HasOrderDividing 8 Address.ofZeros.bytes ∧ ¬ HasOrderDividing 2 Address.ofZeros.bytes) ∧
    ((zeros 64).signer KeyPair.ones.address).sign Transfer.ofZeros.payload = .ok ⟨zeroSignature⟩ ∧
    ¬ Signature.verify ⟨zeroSignature⟩ Transfer.ofZeros.payload KeyPair.ones.address = true := by
  obtain ⟨-, -, horder, -, htransfers, -⟩ := passes_only_where_zeros_fit (zeros 64) .ofZeros
  obtain ⟨hpasses, -, -, hpairs, -, -⟩ :=
    passes_only_where_zeros_fit (zeros 64) KeyPair.ones.address
  obtain ⟨transfer, -, hgives⟩ := htransfers _ _ _ _ _ _ Signer.buildOfZeros_zeros
  have hpayload : transfer.payload = Transfer.ofZeros.payload :=
    (Signer.handsOver_buildTransfer_iff Address.ofHex_onesText _).mp hgives.handsOver
  have hsign : ((zeros 64).signer KeyPair.ones.address).sign Transfer.ofZeros.payload =
      .ok ⟨zeroSignature⟩ := rfl
  refine ⟨⟨_, transfer, Signer.buildOfZeros_zeros, hgives, ?_⟩, ?_, hsign, ?_⟩
  · apply hgives.verify_eq_ok_iff.mpr
    rw [Transaction.payload, hpayload]
    exact fitsZeros_payload_ofZeros
  · exact horder _ fitsZeros_payload_ofZeros
  · rw [(hpasses _ _ hsign).2.2]
    exact hpairs KeyPair.ones rfl Transfer.ofZeros.payload

/-- Not every broken signer fails or gives what does not pass: 64 zeros pass for the letter `x` and
for the transfer of the account of zeros. -/
theorem zeros_pass_ofZeros :
    (∃ signature, ((zeros 64).signer .ofZeros).sign (utf8 "x") = .ok signature ∧
      signature.verify (utf8 "x") .ofZeros = true) ∧
    (((zeros 64).signer .ofZeros).buildOfZeros =
        .ok ⟨(Transfer.ofZeros.wireJson ⟨zeroSignature⟩).render⟩ ∧
      (Transaction.transfer .ofZeros).verify ⟨zeroSignature⟩ = .ok ()) ∧
    ¬ ∀ (fault : BrokenSigning) (key : Address) (message : List UInt8),
      (∃ error, (fault.signer key).sign message = .error error) ∨
        ∃ signature, (fault.signer key).sign message = .ok signature ∧
          signature.verify message key = false := by
  have hsign : ((zeros 64).signer .ofZeros).sign (utf8 "x") = .ok ⟨zeroSignature⟩ := rfl
  have hverify : Signature.verify ⟨zeroSignature⟩ (utf8 "x") .ofZeros = true :=
    verify_zeroSignature_iff.mpr (fitsZeros_zeros_iff.mpr (by decide +kernel))
  refine ⟨⟨_, hsign, hverify⟩, ⟨Signer.buildOfZeros_zeros, ?_⟩, ?_⟩
  · exact Transaction.verify_zeroSignature_eq_ok_iff.mpr fitsZeros_payload_ofZeros
  · intro hnever
    rcases hnever (zeros 64) .ofZeros (utf8 "x") with ⟨error, herror⟩ | ⟨signature, hok, hrefused⟩
    · cases hsign.symm.trans herror
    · cases hsign.symm.trans hok
      rw [hverify] at hrefused
      contradiction

end BrokenSigning

end OfflineSigner

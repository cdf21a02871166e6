import OfflineSigner.Proofs.Json.TypedValue
import OfflineSigner.Proofs.Wallet.Builder

/-!
# Reading signed transfers

The text of a signed transfer is an object of six members in a fixed order. The accounts stand there
in their canonical spelling, however the recipient was spelled in the request, amount and fee as
decimal texts, so that a reader without 64-bit numbers loses nothing, and the counter as a number.
Read one by one and put together with the scope, which is not written, they are the transfer whose
bytes were signed.
-/

namespace OfflineSigner

/-- The written form of a signed transfer holds no double. -/
theorem Transfer.exact_wireJson (transfer : Transfer) (signature : Signature) :
    (transfer.wireJson signature).Exact := by
  simp only [wireJson, Json.tagged, Json.exact_object_iff, List.forall_mem_cons,
    List.not_mem_nil, false_implies, implies_true, and_true]
  exact ⟨.string _, .string _, .string _, .string _, Json.exact_ofUInt64 _, .string _⟩

/-- The signed text of a transfer is an object whose single member holds, in this order, the two
accounts in canonical spelling, amount and fee as decimal texts of the given numbers, the given
counter as a number, and the signature. The transfer from the first account to the second, with the
given numbers and scope, is the one whose bytes the signer was asked to sign, and the signature is
its answer; the first account is the signer's and the second is the one that the request names. -/
theorem Signer.parse?_buildTransfer (signer : Signer) (recipient : String)
    (amount fee nonce : UInt64) (scope : ChainScope) (signed : SignedText)
    (h : signer.buildTransfer recipient amount fee nonce scope = .ok signed) :
    ∃ senderText recipientText amountText feeText signatureText,
      Json.parse? signed.text = some (.object [("Transfer", .object [
        ("from", .string senderText), ("to", .string recipientText),
        ("amount", .string amountText), ("fee", .string feeText),
        ("nonce", .integer nonce.toNat), ("signature", .string signatureText)])]) ∧
      Hex.IsCanonical 64 senderText ∧ Hex.IsCanonical 64 recipientText ∧
      Decimal.readUInt64 amountText = .ok amount ∧ Decimal.readUInt64 feeText = .ok fee ∧
      ∃ sender key signature,
        Address.ofHex senderText = .ok sender ∧ Address.ofHex recipientText = .ok key ∧
        Signature.ofHex signatureText = .ok signature ∧
        (∀ message,
          HandsOver (fun other => other.buildTransfer recipient amount fee nonce scope)
            signer.publicKey message ↔
              message = (Transfer.mk sender key amount fee nonce scope).payload) ∧
        signer.sign (Transfer.mk sender key amount fee nonce scope).payload = .ok signature ∧
        sender = signer.publicKey ∧ Address.ofHex recipient = .ok key := by
  obtain ⟨key, signature, hkey, hsignature, rfl⟩ := buildTransfer_eq_ok_iff.mp h
  have hparse := Json.parse?_render (Transfer.exact_wireJson
    (Transfer.mk signer.publicKey key amount fee nonce scope) signature)
  refine ⟨signer.publicKey.toHex, key.toHex, Decimal.ofNat amount.toNat, Decimal.ofNat fee.toNat,
    signature.toHex, hparse, signer.publicKey.isCanonical_toHex, key.isCanonical_toHex,
    Decimal.readUInt64_ofNat amount, Decimal.readUInt64_ofNat fee, signer.publicKey, key, signature,
    Address.ofHex_toHex _, Address.ofHex_toHex _, Signature.ofHex_toHex _, ?_, hsignature, rfl,
    hkey⟩
  exact handsOver_buildTransfer_iff hkey

/-- A recipient that is spelled in capitals and with spaces. -/
def Address.spacedText : String :=
  " ABABABABABABABAB ABABABABABABABAB abababababababab abababababababab "

/-- The largest transfer to the freely spelled recipient is built, and its amount is read back. -/
theorem Signer.parse?_largestTransfer :
    ∃ signed, zeros.buildTransfer Address.spacedText (-1) (-1) (-1) ⟨some 7, none⟩ = .ok signed ∧
      ∃ members amountText, Json.parse? signed.text = some (.object [("Transfer", .object members)]) ∧
        members.lookup "amount" = some (.string amountText) ∧
        Decimal.readUInt64 amountText = .ok 18446744073709551615 := by
  obtain ⟨signed, hbuilt⟩ : ∃ signed,
      zeros.buildTransfer Address.spacedText (-1) (-1) (-1) ⟨some 7, none⟩ = .ok signed :=
    ⟨_, buildTransfer_eq_ok_iff.mpr ⟨⟨.replicate 32 0xab⟩, _, rfl, rfl, rfl⟩⟩
  obtain ⟨senderText, recipientText, amountText, feeText, signatureText, hparse, -, -, hamount, -⟩ :=
    parse?_buildTransfer zeros Address.spacedText (-1) (-1) (-1) ⟨some 7, none⟩ signed hbuilt
  exact ⟨signed, hbuilt, _, amountText, hparse, rfl, hamount⟩

end OfflineSigner

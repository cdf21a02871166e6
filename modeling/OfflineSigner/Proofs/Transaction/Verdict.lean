import Mathlib.Data.List.Basic
import OfflineSigner.Proofs.Transaction.Collision
import OfflineSigner.Transaction.Verification

/-!
# The verdict belongs to the signed bytes

A signature is checked under a key that is taken from the transaction. That key also stands in the
signed bytes, right behind the name of the kind, so whoever holds the bytes alone comes to the same
verdict. It follows that no two transactions with the same bytes are treated differently, not even
splits whose other fields stand at shifted places, and that auxiliary data of another action, which
adds no bytes, is of no consequence.
-/

namespace OfflineSigner

namespace Address

/-- The key that stands behind the name of a kind at the front of a message. -/
def behindKind? (kind : String) (message : List UInt8) : Option Address :=
  if (utf8 kind).isPrefixOf message then
    (FixedBytes.ofList? ((message.drop (utf8 kind).length).take 32)).map mk
  else none

/-- A key is found behind the name of its kind. -/
theorem behindKind?_append (kind : String) (key : Address) (rest : List UInt8) :
    behindKind? kind (utf8 kind ++ (key.bytes.toList ++ rest)) = some key := by
  have hkind : (utf8 kind).isPrefixOf (utf8 kind ++ (key.bytes.toList ++ rest)) = true :=
    List.isPrefixOf_iff_prefix.mpr (List.prefix_append _ _)
  have hkey : (key.bytes.toList ++ rest).take 32 = key.bytes.toList :=
    List.take_left' key.bytes.length_toList
  rw [behindKind?, if_pos hkind, List.drop_left, hkey, FixedBytes.ofList?_toList, Option.map_some]

/-- No key is found behind the name of a kind that begins with another letter. -/
theorem behindKind?_eq_none {kind : String} {message : List UInt8}
    (hkind : utf8 kind ≠ []) (hfirst : (utf8 kind).head? ≠ message.head?) :
    behindKind? kind message = none := by
  refine if_neg fun hprefix => hfirst ?_
  obtain ⟨rest, rfl⟩ := List.isPrefixOf_iff_prefix.mp hprefix
  exact (List.head?_append_of_ne_nil (utf8 kind) hkind).symm

end Address

/-- The account that signs a message, as the message itself tells it. -/
def signerOfMessage? (message : List UInt8) : Option Address :=
  (Address.behindKind? "Transfer" message).or (Address.behindKind? "MistbornAsset" message)

/-- The signed bytes tell the account that signs. -/
theorem Transaction.signerOfMessage?_payload (transaction : Transaction) :
    signerOfMessage? transaction.payload = some transaction.sender := by
  cases transaction with
  | transfer content =>
    rw [signerOfMessage?, payload, Transfer.payload_eq, Address.behindKind?_append, Option.some_or]
    rfl
  | asset content =>
    have hother : Address.behindKind? "Transfer" content.payload = none := by
      refine Address.behindKind?_eq_none (by decide) ?_
      have htransfer : (utf8 "Transfer").head? = some 0x54 := by decide
      have hasset : (utf8 "MistbornAsset").head? = some 0x4d := by decide
      rw [AssetTransaction.payload_eq, List.head?_append, htransfer, hasset, Option.some_or]
      decide
    rw [signerOfMessage?, payload, hother, AssetTransaction.payload_eq,
      Address.behindKind?_append, Option.none_or]
    rfl

/-- The verdict on a signature that the signed bytes alone allow. -/
def Signature.verdict (signature : Signature) (message : List UInt8) :
    Except TransactionError Unit :=
  match signerOfMessage? message with
  | some key => if signature.verify message key then .ok () else .error .invalidSignature
  | none => .error .invalidSignature

namespace AssetExtra

/-- Whether auxiliary data is of the kind that an action signs. -/
def BelongsTo : AssetExtra → AssetAction → Prop
  | merge _, .merge => True
  | split _, .split => True
  | _, _ => False

/-- Auxiliary data that does not belong to the action adds no bytes. -/
theorem bytesFor_eq_nil {action : AssetAction} {extra : AssetExtra}
    (h : ¬ extra.BelongsTo action) : extra.bytesFor action = [] := by
  unfold bytesFor
  split
  · exact absurd trivial h
  · exact absurd trivial h
  · rfl

end AssetExtra

/-- Auxiliary data that does not belong to the action may be replaced by other such data without a
trace in the signed bytes. -/
theorem AssetTransaction.payload_of_not_belongsTo {asset : AssetTransaction} {extra : AssetExtra}
    (hasset : ¬ asset.extra.BelongsTo asset.action) (hextra : ¬ extra.BelongsTo asset.action) :
    { asset with extra := extra }.payload = asset.payload := by
  simp only [payload, extraBytes, AssetExtra.bytesFor_eq_nil hasset,
    AssetExtra.bytesFor_eq_nil hextra]

namespace Transaction

/-- A transaction is judged as its signed bytes are. -/
theorem verify_eq_verdict (transaction : Transaction) (signature : Signature) :
    transaction.verify signature = signature.verdict transaction.payload := by
  rw [Signature.verdict, signerOfMessage?_payload]
  rfl

/-- A signature is accepted or refused as invalid, and which of the two is decided by the signed
bytes alone: it is the verdict on these bytes, so transactions with the same bytes share it, and
auxiliary data that does not belong to the action, or none, makes no difference. -/
theorem verify_determined_by_payload :
    (∀ (a : Transaction) (signature : Signature),
      a.verify signature = signature.verdict a.payload ∧
        (a.verify signature = .ok () ∨ a.verify signature = .error .invalidSignature)) ∧
    (∀ (a b : Transaction) (signature : Signature), a.payload = b.payload →
      a.verify signature = b.verify signature) ∧
    (∀ (asset : AssetTransaction) (extra : AssetExtra) (signature : Signature),
      ¬ asset.extra.BelongsTo asset.action → ¬ extra.BelongsTo asset.action →
        (Transaction.asset { asset with extra := extra }).verify signature =
          (Transaction.asset asset).verify signature) := by
  refine ⟨fun a signature => ⟨verify_eq_verdict a signature, ?_⟩, ?_, ?_⟩
  · unfold verify
    split
    · exact Or.inl rfl
    · exact Or.inr rfl
  · intro a b signature h
    rw [verify_eq_verdict, verify_eq_verdict, h]
  · intro asset extra signature hasset hextra
    rw [verify_eq_verdict, verify_eq_verdict]
    exact congrArg signature.verdict (AssetTransaction.payload_of_not_belongsTo hasset hextra)

/-- The two splits that share out the same bytes differently are judged alike, and so is a
creation with the components of a split and without them. -/
theorem verify_letters :
    (asset .lettersAsComponents).payload = (asset .lettersAsFee).payload ∧
      (∀ signature, (asset .lettersAsComponents).verify signature =
        (asset .lettersAsFee).verify signature) ∧
      ∀ signature, (asset { AssetTransaction.lettersAsFee with
          action := .create, extra := .none }).verify signature =
        (asset { AssetTransaction.lettersAsFee with action := .create }).verify signature := by
  have hpayload : (asset .lettersAsComponents).payload = (asset .lettersAsFee).payload := by decide
  refine ⟨hpayload, fun signature => ?_, fun signature => ?_⟩
  · exact verify_determined_by_payload.2.1 _ _ signature hpayload
  · exact verify_determined_by_payload.2.2
      { AssetTransaction.lettersAsFee with action := .create } .none signature id id

end Transaction

end OfflineSigner

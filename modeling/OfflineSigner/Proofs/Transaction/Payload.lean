import OfflineSigner.Proofs.Bytes.Words
import OfflineSigner.Transaction.Payload

/-!
# Taking signed bytes apart

Every field before the auxiliary data of an asset has a fixed width, so equal signed bytes have
equal fields up to there. What follows is the tail: auxiliary bytes of a length that is not
written, and a run of two to four numbers. Auxiliary bytes of a merge number 0 or 32 and those of
the other actions but a split none, which is what keeps such tails from lining up at a shift.
-/

namespace OfflineSigner

open LittleEndian

namespace FixedBytes

variable {n : Nat}

/-- Sequences of one length at the front of equal bytes are equal, and so are the rests. -/
theorem append_eq_append_iff {a b : FixedBytes n} {rest rest' : List UInt8} :
    a.toList ++ rest = b.toList ++ rest' ↔ a = b ∧ rest = rest' := by
  constructor
  · intro h
    obtain ⟨hbytes, hrest⟩ := List.append_inj h (by rw [a.length_toList, b.length_toList])
    exact ⟨ext hbytes, hrest⟩
  · rintro ⟨rfl, rfl⟩
    rfl

end FixedBytes

/-- The same for the keys of two accounts. -/
theorem Address.append_eq_append_iff {a b : Address} {rest rest' : List UInt8} :
    a.bytes.toList ++ rest = b.bytes.toList ++ rest' ↔ a = b ∧ rest = rest' := by
  cases a
  cases b
  rw [FixedBytes.append_eq_append_iff, Address.mk.injEq]

/-- Different actions have different codes. -/
theorem AssetAction.code_injective : Function.Injective code := by
  intro a b h
  cases a <;> cases b <;> first | rfl | contradiction

/-- Different densities have different codes. -/
theorem Density.code_injective : Function.Injective code := by
  intro a b h
  cases a <;> cases b <;> first | rfl | contradiction

namespace ChainScope

/-- One number, which is the chain in the first scope and the last height in the second. -/
def Swapped (a b : ChainScope) : Prop :=
  ∃ number, a = ⟨some number, none⟩ ∧ b = ⟨none, some number⟩

/-- A scope has at most two values. -/
theorem length_values_le (scope : ChainScope) : scope.values.length ≤ 2 := by
  obtain ⟨chainId, height⟩ := scope
  cases chainId <;> cases height <;> simp [values]

/-- The values determine a scope, except that a single value may be either field. -/
theorem values_eq_iff (a b : ChainScope) :
    a.values = b.values ↔ a = b ∨ a.Swapped b ∨ b.Swapped a := by
  obtain ⟨chainId, height⟩ := a
  obtain ⟨chainId', height'⟩ := b
  cases chainId <;> cases height <;> cases chainId' <;> cases height' <;>
    simp [values, Swapped]
  -- Only a height against a chain is left, where the equation is to be turned around.
  exact eq_comm

/-- Only the scope without fields has no values. -/
theorem values_eq_nil_iff (scope : ChainScope) : scope.values = [] ↔ scope = .unscoped := by
  obtain ⟨chainId, height⟩ := scope
  cases chainId <;> cases height <;> simp [values, unscoped]

end ChainScope

namespace Transfer

/-- The numbers that end the signed bytes. -/
def words (transfer : Transfer) : List UInt64 :=
  transfer.amount :: transfer.fee :: transfer.nonce :: transfer.scope.values

/-- The signed bytes are the kind, two keys and a run of numbers. -/
theorem payload_eq (transfer : Transfer) :
    transfer.payload = utf8 "Transfer" ++ (transfer.sender.bytes.toList ++
      (transfer.recipient.bytes.toList ++ ofWords transfer.words)) := by
  simp [payload, words, ChainScope.bytes, ofWords]

/-- Equal signed bytes mean equal fields, up to which scope field a value stands for. -/
theorem payload_eq_iff (a b : Transfer) :
    a.payload = b.payload ↔ a.sender = b.sender ∧ a.recipient = b.recipient ∧
      a.amount = b.amount ∧ a.fee = b.fee ∧ a.nonce = b.nonce ∧
        a.scope.values = b.scope.values := by
  rw [payload_eq, payload_eq, List.append_right_inj, Address.append_eq_append_iff,
    Address.append_eq_append_iff, ofWords_injective.eq_iff]
  simp [words]

end Transfer

namespace AssetTransaction

/-- The numbers that end the signed bytes. -/
def words (asset : AssetTransaction) : List UInt64 :=
  asset.fee :: asset.nonce :: asset.scope.values

/-- What is signed behind the density: auxiliary bytes, fee, nonce and scope. -/
def tail (asset : AssetTransaction) : List UInt8 :=
  asset.extraBytes ++ ofUInt64 asset.fee ++ ofUInt64 asset.nonce ++ asset.scope.bytes

/-- A tail is the auxiliary bytes and a run of numbers. -/
theorem tail_eq (asset : AssetTransaction) :
    asset.tail = asset.extraBytes ++ ofWords asset.words := by
  simp [tail, words, ChainScope.bytes, ofWords]

/-- The signed bytes are the kind, fields of fixed width and the tail. -/
theorem payload_eq (asset : AssetTransaction) :
    asset.payload = utf8 "MistbornAsset" ++ (asset.sender.bytes.toList ++
      (asset.action.code :: (asset.assetId.toList ++ (asset.owner.bytes.toList ++
        (asset.density.code :: asset.tail))))) := by
  simp [payload, tail]

/-- Equal signed bytes mean equal fields of fixed width and equal tails. -/
theorem payload_eq_iff (a b : AssetTransaction) :
    a.payload = b.payload ↔ a.sender = b.sender ∧ a.action = b.action ∧ a.assetId = b.assetId ∧
      a.owner = b.owner ∧ a.density = b.density ∧ a.tail = b.tail := by
  rw [payload_eq, payload_eq, List.append_right_inj, Address.append_eq_append_iff,
    List.cons.injEq, AssetAction.code_injective.eq_iff, FixedBytes.append_eq_append_iff,
    Address.append_eq_append_iff, List.cons.injEq, Density.code_injective.eq_iff]

/-- A run of numbers holds the fee, the nonce and the values of the scope. -/
theorem length_words (asset : AssetTransaction) :
    asset.words.length = asset.scope.values.length + 2 := rfl

/-- The length of a tail counts auxiliary bytes and eight bytes for each number. -/
theorem length_tail (asset : AssetTransaction) :
    asset.tail.length = asset.extraBytes.length + 8 * (asset.scope.values.length + 2) := by
  rw [tail_eq, List.length_append, length_ofWords, length_words]

/-- Auxiliary bytes that are no components are an asset id or nothing. -/
theorem length_extraBytes (asset : AssetTransaction) (hsplit : asset.action ≠ .split) :
    asset.extraBytes.length = 0 ∨ asset.extraBytes.length = 32 := by
  unfold extraBytes AssetExtra.bytesFor
  split
  · rename_i other _ _
    exact Or.inr other.length_toList
  · contradiction
  · exact Or.inl rfl

/-- Equal tails have the same number of scope values unless they belong to splits: the lengths 0
and 32 of other auxiliary bytes are further apart than two values can make up for. -/
theorem split_or_length_values_eq {a b : AssetTransaction} (haction : a.action = b.action)
    (htail : a.tail = b.tail) :
    a.action = .split ∨ a.scope.values.length = b.scope.values.length := by
  by_cases hsplit : a.action = .split
  · exact Or.inl hsplit
  · right
    have hlen := congrArg List.length htail
    rw [length_tail, length_tail] at hlen
    have ha := a.length_extraBytes hsplit
    have hb := b.length_extraBytes (haction ▸ hsplit)
    have hle := a.scope.length_values_le
    have hle' := b.scope.length_values_le
    omega

/-- Once the number of scope values is the same, equal tails have equal parts. -/
theorem tail_eq_iff {a b : AssetTransaction}
    (hlen : a.scope.values.length = b.scope.values.length) :
    a.tail = b.tail ↔ a.extraBytes = b.extraBytes ∧ a.fee = b.fee ∧ a.nonce = b.nonce ∧
      a.scope.values = b.scope.values := by
  rw [tail_eq, tail_eq]
  constructor
  · intro h
    obtain ⟨hextra, hwords⟩ := append_ofWords_inj h (by rw [length_words, length_words, hlen])
    exact ⟨hextra, by simpa [words] using hwords⟩
  · rintro ⟨hextra, hfee, hnonce, hvalues⟩
    rw [hextra, words, hfee, hnonce, hvalues, words]

end AssetTransaction

/-- The kind keeps transfers and actions on assets apart from the first byte on. -/
theorem Transfer.payload_ne_asset_payload (transfer : Transfer) (asset : AssetTransaction) :
    transfer.payload ≠ asset.payload := by
  intro h
  have htransfer : (utf8 "Transfer").head? = some 0x54 := by decide
  have hasset : (utf8 "MistbornAsset").head? = some 0x4d := by decide
  have hfirst := congrArg List.head? h
  rw [Transfer.payload_eq, AssetTransaction.payload_eq] at hfirst
  simp [List.head?_append, htransfer, hasset] at hfirst

end OfflineSigner

import OfflineSigner.Proofs.Transaction.Payload

/-!
# Transactions with the same signed bytes

A signature belongs to bytes, so it belongs to every transaction with those bytes. Apart from
splits, two such transactions agree in all that is signed; only a scope with a single value does
not tell which of its two fields that value is. Components of a split have no length of their own,
so between two splits one or two numbers may pass from the end of the components to the fee, from
there to the nonce, and on into the scope. Nothing else is shared by different transactions.
-/

namespace OfflineSigner

open LittleEndian

namespace AssetTransaction

/-- The auxiliary bytes of `a` end with the numbers of `b` that `a` itself lacks. -/
def Absorbs (a b : AssetTransaction) (surplus : List UInt64) : Prop :=
  b.words = surplus ++ a.words ∧ a.extraBytes = b.extraBytes ++ ofWords surplus

/-- Of two equal tails, the one with fewer scope values absorbs numbers of the other. -/
theorem exists_absorbs_of_tail_eq {a b : AssetTransaction} (htail : a.tail = b.tail)
    (hlen : a.scope.values.length < b.scope.values.length) :
    ∃ surplus, 0 < surplus.length ∧ surplus.length ≤ 2 ∧ a.Absorbs b surplus := by
  rw [tail_eq, tail_eq] at htail
  obtain ⟨surplus, hwords, hextra⟩ := append_ofWords_shift htail (by
    rw [length_words, length_words]
    omega)
  have hcount := congrArg List.length hwords
  rw [List.length_append, length_words, length_words] at hcount
  have hle := b.scope.length_values_le
  exact ⟨surplus, by omega, by omega, hwords, hextra⟩

/-- Equal tails have equal parts, or belong to splits of which one absorbs numbers. -/
theorem tail_eq_cases {a b : AssetTransaction} (haction : a.action = b.action)
    (htail : a.tail = b.tail) :
    (a.extraBytes = b.extraBytes ∧ a.fee = b.fee ∧ a.nonce = b.nonce ∧
        a.scope.values = b.scope.values) ∨
      (a.action = .split ∧ ∃ surplus, 0 < surplus.length ∧ surplus.length ≤ 2 ∧
        (a.Absorbs b surplus ∨ b.Absorbs a surplus)) := by
  rcases Nat.lt_trichotomy a.scope.values.length b.scope.values.length with hlt | heq | hgt
  · have hsplit := (split_or_length_values_eq haction htail).resolve_right (Nat.ne_of_lt hlt)
    obtain ⟨surplus, hpos, hle, habsorbs⟩ := exists_absorbs_of_tail_eq htail hlt
    exact Or.inr ⟨hsplit, surplus, hpos, hle, Or.inl habsorbs⟩
  · exact Or.inl ((tail_eq_iff heq).mp htail)
  · have hsplit := (split_or_length_values_eq haction htail).resolve_right (Nat.ne_of_gt hgt)
    obtain ⟨surplus, hpos, hle, habsorbs⟩ := exists_absorbs_of_tail_eq htail.symm hgt
    exact Or.inr ⟨hsplit, surplus, hpos, hle, Or.inr habsorbs⟩

/-- An action on an asset with the signed bytes of another one has its fee, nonce and auxiliary
bytes and has a scope when the other has one; or both are splits, and the auxiliary bytes of one
end with one or two numbers that the other holds as fee, nonce or scope. -/
theorem fee_nonce_extra_of_payload_eq (a b : AssetTransaction) (h : a.payload = b.payload) :
    (a.fee = b.fee ∧ a.nonce = b.nonce ∧ a.extraBytes = b.extraBytes ∧
        (a.scope = .unscoped ↔ b.scope = .unscoped)) ∨
      (a.action = .split ∧ b.action = .split ∧
        ∃ surplus, 0 < surplus.length ∧ surplus.length ≤ 2 ∧
          (a.Absorbs b surplus ∨ b.Absorbs a surplus)) := by
  obtain ⟨-, haction, -, -, -, htail⟩ := (payload_eq_iff a b).mp h
  rcases tail_eq_cases haction htail with ⟨hextra, hfee, hnonce, hvalues⟩ | ⟨hsplit, hsurplus⟩
  · refine Or.inl ⟨hfee, hnonce, hextra, ?_⟩
    rw [← ChainScope.values_eq_nil_iff, ← ChainScope.values_eq_nil_iff, hvalues]
  · exact Or.inr ⟨hsplit, haction.symm.trans hsplit, hsurplus⟩

/-- A split whose components end with the letters `abcdefgh`, paid with a fee of 2. -/
def lettersAsComponents : AssetTransaction :=
  ⟨⟨.replicate 32 0xaa⟩, .split, .replicate 32 0x22, ⟨.replicate 32 0xaa⟩, .light,
    .split "abcdefgh", 2, 3, .unscoped⟩

/-- The split without components that has the letters as its fee and a chain. -/
def lettersAsFee : AssetTransaction :=
  { lettersAsComponents with
    extra := .split "", fee := 0x6867666564636261, nonce := 2, scope := ⟨some 3, none⟩ }

/-- Two splits with the same signed bytes differ in fee, nonce, auxiliary bytes and in whether
they are bound to a chain. -/
theorem payload_lettersAsComponents :
    lettersAsComponents.payload = lettersAsFee.payload ∧
      lettersAsComponents.fee ≠ lettersAsFee.fee ∧
      lettersAsComponents.nonce ≠ lettersAsFee.nonce ∧
      lettersAsComponents.extraBytes ≠ lettersAsFee.extraBytes ∧
      lettersAsComponents.scope = .unscoped ∧ lettersAsFee.scope ≠ .unscoped := by
  decide

/-- The letters that pass into the components are the numbers that the two splits share out
differently. -/
theorem surplus_of_letters :
    lettersAsComponents.payload = lettersAsFee.payload ∧
      lettersAsComponents.action = .split ∧ lettersAsFee.action = .split ∧
      ∃ surplus, 0 < surplus.length ∧ surplus.length ≤ 2 ∧
        (lettersAsComponents.Absorbs lettersAsFee surplus ∨
          lettersAsFee.Absorbs lettersAsComponents surplus) := by
  have hpayload : lettersAsComponents.payload = lettersAsFee.payload := by decide
  have hcases := fee_nonce_extra_of_payload_eq lettersAsComponents lettersAsFee hpayload
  exact ⟨hpayload, hcases.resolve_left (by decide)⟩

end AssetTransaction

namespace Transaction

/-- Whether a transaction is a split. -/
def IsSplit : Transaction → Prop
  | transfer _ => False
  | asset content => content.action = .split

/-- Transactions that agree in all that is signed, the single value of a scope and the tail of an
action on an asset being taken as they are signed. -/
def SignedAlike : Transaction → Transaction → Prop
  | transfer a, transfer b =>
    a.sender = b.sender ∧ a.recipient = b.recipient ∧ a.amount = b.amount ∧ a.fee = b.fee ∧
      a.nonce = b.nonce ∧ a.scope.values = b.scope.values
  | asset a, asset b =>
    a.sender = b.sender ∧ a.action = b.action ∧ a.assetId = b.assetId ∧ a.owner = b.owner ∧
      a.density = b.density ∧ a.tail = b.tail
  | transfer _, asset _ => False
  | asset _, transfer _ => False

/-- The signed bytes are equal exactly when all that is signed is. -/
theorem payload_eq_iff_signedAlike (a b : Transaction) :
    a.payload = b.payload ↔ a.SignedAlike b := by
  cases a with
  | transfer a =>
    cases b with
    | transfer b => exact Transfer.payload_eq_iff a b
    | asset b => exact iff_false_intro (Transfer.payload_ne_asset_payload a b)
  | asset a =>
    cases b with
    | transfer b => exact iff_false_intro (Transfer.payload_ne_asset_payload b a).symm
    | asset b => exact AssetTransaction.payload_eq_iff a b

/-- Transactions with the same signed bytes have scopes with the same values unless they are
splits whose scopes differ in the number of values. -/
theorem values_eq_or_isSplit {a b : Transaction} (h : a.payload = b.payload) :
    a.scope.values = b.scope.values ∨
      (a.IsSplit ∧ b.IsSplit ∧ a.scope.values.length ≠ b.scope.values.length) := by
  rw [payload_eq_iff_signedAlike] at h
  cases a with
  | transfer a =>
    cases b with
    | transfer b =>
      obtain ⟨-, -, -, -, -, hvalues⟩ := h
      exact Or.inl hvalues
    | asset b => exact h.elim
  | asset a =>
    cases b with
    | transfer b => exact h.elim
    | asset b =>
      obtain ⟨-, haction, -, -, -, htail⟩ := h
      by_cases hlen : a.scope.values.length = b.scope.values.length
      · exact Or.inl ((AssetTransaction.tail_eq_iff hlen).mp htail).2.2.2
      · have hsplit := (AssetTransaction.split_or_length_values_eq haction htail).resolve_right hlen
        exact Or.inr ⟨hsplit, haction.symm.trans hsplit, hlen⟩

/-- Transactions with the same signed bytes are bound to the same chain and the same height, but
for two exceptions: a number that is the only value of both scopes may be the chain of one and the
height of the other, and two splits may have scopes with different numbers of values. -/
theorem scope_of_payload_eq (a b : Transaction) (h : a.payload = b.payload) :
    (a.scope.chainId = b.scope.chainId ∧ a.scope.validUntilHeight = b.scope.validUntilHeight) ∨
      (a.scope.Swapped b.scope ∨ b.scope.Swapped a.scope) ∨
      (a.IsSplit ∧ b.IsSplit ∧ a.scope.values.length ≠ b.scope.values.length) := by
  rcases values_eq_or_isSplit h with hvalues | hsplit
  · rcases (ChainScope.values_eq_iff a.scope b.scope).mp hvalues with heq | hswapped
    · rw [heq]
      exact Or.inl ⟨rfl, rfl⟩
    · exact Or.inr (Or.inl hswapped)
  · exact Or.inr (Or.inr hsplit)

/-- A transfer with the given scope. -/
def transferWithin (scope : ChainScope) : Transaction :=
  transfer ⟨⟨.replicate 32 0xaa⟩, ⟨.replicate 32 0x11⟩, 1000, 10, 1, scope⟩

/-- The signed bytes do not tell a transfer on chain 7 from one up to height 7, nor a split on
a chain from one on none. -/
theorem payload_without_scope :
    (transferWithin ⟨some 7, none⟩).payload = (transferWithin ⟨none, some 7⟩).payload ∧
      (transferWithin ⟨some 7, none⟩).scope.chainId ≠
        (transferWithin ⟨none, some 7⟩).scope.chainId ∧
      (transferWithin ⟨some 7, none⟩).scope.validUntilHeight ≠
        (transferWithin ⟨none, some 7⟩).scope.validUntilHeight ∧
      (asset .lettersAsComponents).payload = (asset .lettersAsFee).payload ∧
      (asset .lettersAsComponents).scope.chainId ≠ (asset .lettersAsFee).scope.chainId := by
  decide

/-- Transfers with the same signed bytes have the same scope up to the exchange of its fields. -/
theorem scope_of_transferWithin :
    (transferWithin ⟨some 7, none⟩).payload = (transferWithin ⟨none, some 7⟩).payload ∧
      ((transferWithin ⟨some 7, none⟩).scope.Swapped (transferWithin ⟨none, some 7⟩).scope ∨
        (transferWithin ⟨none, some 7⟩).scope.Swapped (transferWithin ⟨some 7, none⟩).scope) := by
  have hpayload : (transferWithin ⟨some 7, none⟩).payload =
      (transferWithin ⟨none, some 7⟩).payload := by decide
  have hcases := scope_of_payload_eq _ _ hpayload
  exact ⟨hpayload, (hcases.resolve_left (by decide)).resolve_right fun h => h.1⟩

/-- The classes of transactions with the same signed bytes: transfers that agree in every field,
scopes as lists of values, and actions on assets that agree in the fields of fixed width and in
the tail. Tails of the same action agree part by part if it is not a split or if the scopes have
equally many values; otherwise the action is a split and each missing value stands for eight
bytes of components. -/
theorem payload_classes :
    (∀ a b : Transaction, a.payload = b.payload ↔ a.SignedAlike b) ∧
    (∀ a b : AssetTransaction, a.action = b.action →
      (a.action ≠ .split ∨ a.scope.values.length = b.scope.values.length) →
        (a.tail = b.tail ↔ a.extraBytes = b.extraBytes ∧ a.fee = b.fee ∧ a.nonce = b.nonce ∧
          a.scope.values = b.scope.values)) ∧
    (∀ a b : AssetTransaction, a.payload = b.payload →
      a.scope.values.length ≠ b.scope.values.length →
        a.action = .split ∧ b.action = .split ∧
          a.extraBytes.length + 8 * a.scope.values.length =
            b.extraBytes.length + 8 * b.scope.values.length) ∧
    (∀ (a : Transfer) (b : AssetTransaction), a.payload ≠ b.payload) := by
  refine ⟨payload_eq_iff_signedAlike, ?_, ?_, Transfer.payload_ne_asset_payload⟩
  · intro a b haction hcase
    constructor
    · intro htail
      have hlen : a.scope.values.length = b.scope.values.length :=
        hcase.elim (AssetTransaction.split_or_length_values_eq haction htail).resolve_left id
      exact (AssetTransaction.tail_eq_iff hlen).mp htail
    · intro hparts
      have hlen := congrArg List.length hparts.2.2.2
      exact (AssetTransaction.tail_eq_iff hlen).mpr hparts
  · intro a b h hlen
    obtain ⟨-, haction, -, -, -, htail⟩ := (AssetTransaction.payload_eq_iff a b).mp h
    have hsplit := (AssetTransaction.split_or_length_values_eq haction htail).resolve_right hlen
    have htotal := congrArg List.length htail
    rw [AssetTransaction.length_tail, AssetTransaction.length_tail] at htotal
    exact ⟨hsplit, haction.symm.trans hsplit, by omega⟩

end Transaction

end OfflineSigner

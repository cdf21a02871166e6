import OfflineSigner.Proofs.Wallet.AssetReading
import OfflineSigner.Proofs.Wallet.TransferReading

/-!
# Builders succeed or fail as a whole

A builder reads its hexadecimal texts one after the other, asks the signer once and writes. So it
fails for one of two reasons alone: a text does not spell its 32 bytes, and then the first such text
is reported and the signer does not matter; or all texts are read and the signer fails. The other
asset of a merge is refused on its way through the error of a transaction and the other texts
directly, which cannot be told from what is reported. Writing never fails, and what is written is
never the empty text, so that the empty text can stand for a failure.
-/

namespace OfflineSigner

/-- A text that has to spell 32 bytes, with the name under which it is refused. -/
structure HexInput where
  /-- What the bytes stand for. -/
  field : String
  text : String

namespace HexInput

/-- The text spells 32 bytes. -/
def IsSpelled (input : HexInput) : Prop :=
  ∃ value : FixedBytes 32, value.IsSpelledBy input.text

/-- Why the text does not spell 32 bytes. -/
def refusal? (input : HexInput) : Option ValueError :=
  match Hex.decode input.text with
  | .error fault => some (.invalidHex fault.message)
  | .ok bytes =>
    if bytes.length = 32 then none else some (.invalidLength input.field 32 bytes.length)

/-- Why the first of some texts that does not spell 32 bytes does not do so. -/
def firstRefusal? (inputs : List HexInput) : Option ValueError :=
  inputs.findSome? refusal?

/-- What is reported of a text that is read as 32 bytes is its refusal. -/
theorem error?_ofHex (field text : String) :
    Except.error? (FixedBytes.ofHex field text : Except ValueError (FixedBytes 32)) =
      refusal? ⟨field, text⟩ := by
  rw [FixedBytes.ofHex, bytesOfHex, refusal?]
  generalize Hex.decode text = outcome
  cases outcome with
  | error fault => rfl
  | ok bytes =>
    change Except.error? (FixedBytes.ofBytes field bytes) = _
    by_cases hlength : bytes.length = 32
    · simp [FixedBytes.ofBytes, FixedBytes.ofList?, Except.error?, hlength]
    · simp [FixedBytes.ofBytes, FixedBytes.ofList?, Except.error?, hlength]

/-- A text is not refused exactly when it spells 32 bytes. -/
theorem refusal?_eq_none_iff {input : HexInput} : input.refusal? = none ↔ input.IsSpelled := by
  rw [← error?_ofHex, Except.error?_eq_none_iff, IsSpelled]
  simp only [FixedBytes.ofHex_eq_ok_iff]

/-- None of some texts is refused exactly when each spells 32 bytes. -/
theorem firstRefusal?_eq_none_iff {inputs : List HexInput} :
    firstRefusal? inputs = none ↔ ∀ input ∈ inputs, input.IsSpelled := by
  simp only [firstRefusal?, List.findSome?_eq_none_iff, refusal?_eq_none_iff]

/-- The first refusal among two rows of texts. -/
theorem firstRefusal?_append (first second : List HexInput) :
    firstRefusal? (first ++ second) = (firstRefusal? first).or (firstRefusal? second) :=
  List.findSome?_append

/-- The text alone is refused or not. -/
theorem firstRefusal?_singleton (input : HexInput) : firstRefusal? [input] = input.refusal? := by
  rw [firstRefusal?, List.findSome?_cons, List.findSome?_nil]
  cases input.refusal? <;> rfl

end HexInput

namespace WalletError

variable {α : Type}

/-- The error of a value becomes the wallet's error of its refusal. -/
theorem error?_liftValue (outcome : Except ValueError α) :
    Except.error? (liftValue outcome) = (Except.error? outcome).map ofValue := by
  cases outcome <;> rfl

/-- It is the same error on the way through a transaction. -/
theorem error?_liftTransaction_liftValue (outcome : Except ValueError α) :
    Except.error? (liftTransaction (TransactionError.liftValue outcome)) =
      (Except.error? outcome).map ofValue := by
  cases outcome <;> rfl

/-- What is made of the value does not matter to the error of a transaction. -/
theorem error?_liftTransaction_map {β : Type} (f : α → β) (outcome : Except TransactionError α) :
    Except.error? (liftTransaction (outcome.map f)) = Except.error? (liftTransaction outcome) := by
  cases outcome <;> rfl

end WalletError

/-- An address text is refused under the name of addresses. -/
theorem Address.error?_ofHex (text : String) :
    Except.error? (ofHex text) = HexInput.refusal? ⟨"address", text⟩ := by
  rw [ofHex, Except.error?_map, HexInput.error?_ofHex]

namespace AssetExtra

/-- The text of auxiliary data that is read as bytes: the other asset, if a merge names one. -/
def hexInputs (action : AssetAction) (metadata : Metadata) : List HexInput :=
  if action = .merge then
    (metadata.get? otherAssetKey).toList.map (HexInput.mk "other asset id")
  else []

/-- Auxiliary data is refused for that text alone. -/
theorem error?_ofMetadata (action : AssetAction) (metadata : Metadata) :
    Except.error? (WalletError.liftTransaction (ofMetadata action metadata)) =
      (HexInput.firstRefusal? (hexInputs action metadata)).map .ofValue := by
  cases action with
  | merge =>
    rw [ofMetadata, hexInputs, if_pos rfl]
    cases metadata.get? otherAssetKey with
    | none => rfl
    | some text =>
      change Except.error? (WalletError.liftTransaction (Except.map merge
        (TransactionError.liftValue (FixedBytes.ofHex "other asset id" text)))) =
          (HexInput.firstRefusal? [⟨"other asset id", text⟩]).map .ofValue
      rw [WalletError.error?_liftTransaction_map, WalletError.error?_liftTransaction_liftValue,
        HexInput.error?_ofHex, HexInput.firstRefusal?_singleton]
  | split =>
    rw [ofMetadata]
    cases metadata.get? componentsKey <;> rfl
  | create => rfl
  | update => rfl
  | condense => rfl
  | evaporate => rfl

end AssetExtra

namespace AssetRequest

/-- The texts of a request that are read as bytes, in the order in which they are checked: the
asset, the owner if one is named, and the other asset if a merge names one. -/
def hexInputs (request : AssetRequest) : List HexInput :=
  [⟨"asset id", request.assetId⟩] ++ request.owner.toList.map (HexInput.mk "address") ++
    AssetExtra.hexInputs request.action request.metadata

/-- The conditions on the texts one by one. -/
theorem forall_hexInputs_iff (request : AssetRequest) :
    (∀ input ∈ request.hexInputs, input.IsSpelled) ↔
      (∃ assetId : AssetId, assetId.IsSpelledBy request.assetId) ∧
      (∀ text, request.owner = some text → ∃ owner : FixedBytes 32, owner.IsSpelledBy text) ∧
      (request.action = .merge → ∀ text, request.metadata.get? otherAssetKey = some text →
        ∃ otherAsset : AssetId, otherAsset.IsSpelledBy text) := by
  by_cases hmerge : request.action = .merge
  · simp [hexInputs, AssetExtra.hexInputs, hmerge, HexInput.IsSpelled, or_imp, forall_and]
  · simp [hexInputs, AssetExtra.hexInputs, hmerge, HexInput.IsSpelled, or_imp, forall_and]

/-- A named owner is refused for its text alone, and the signer never is. -/
theorem error?_resolveOwner (request : AssetRequest) (account : Address) :
    Except.error? (request.resolveOwner account) =
      HexInput.firstRefusal? (request.owner.toList.map (HexInput.mk "address")) := by
  rw [resolveOwner]
  cases request.owner with
  | none => rfl
  | some text =>
    change Except.error? (Address.ofHex text) = HexInput.firstRefusal? [⟨"address", text⟩]
    rw [Address.error?_ofHex, HexInput.firstRefusal?_singleton]

/-- A request fails to mean a transaction for its texts alone, and the first refused one counts. -/
theorem error?_transaction (request : AssetRequest) (account : Address) :
    Except.error? (request.transaction account) =
      (HexInput.firstRefusal? request.hexInputs).map .ofValue := by
  calc
    Except.error? (request.transaction account) =
        (Except.error? (WalletError.liftValue
          (FixedBytes.ofHex "asset id" request.assetId : Except ValueError AssetId))).or
        ((Except.error? (WalletError.liftValue (request.resolveOwner account))).or
        ((Except.error? (WalletError.liftTransaction
          (AssetExtra.ofMetadata request.action request.metadata))).or none)) := by
      -- No check looks at the values of those before it, so each row has a single error.
      rw [transaction]
      apply Except.error?_bind
      intro assetId
      apply Except.error?_bind
      intro owner
      apply Except.error?_bind
      intro extra
      rfl
    _ = (HexInput.firstRefusal? request.hexInputs).map .ofValue := by
      rw [WalletError.error?_liftValue, HexInput.error?_ofHex, WalletError.error?_liftValue,
        error?_resolveOwner, AssetExtra.error?_ofMetadata, Option.or_none, hexInputs,
        HexInput.firstRefusal?_append, HexInput.firstRefusal?_append,
        HexInput.firstRefusal?_singleton, Option.map_or, Option.map_or, Option.or_assoc]

end AssetRequest

namespace Signer

/-- How a builder comes out for an account, whatever way to sign it is given. The inputs are the
texts that it checks, in their order, and the payload is what it hands to the signer, if all of them
are read. -/
structure ComesOut (build : Signer → Except WalletError SignedText) (account : Address)
    (inputs : List HexInput) (payload? : Option (List UInt8)) : Prop where
  /-- There is something to sign exactly when every text is read. -/
  signs_iff : payload?.isSome ↔ ∀ input ∈ inputs, input.IsSpelled
  /-- It succeeds exactly when every text is read and the signer signs. -/
  succeeds_iff : ∀ sign, (∃ signed, build ⟨account, sign⟩ = .ok signed) ↔
    (∀ input ∈ inputs, input.IsSpelled) ∧
      ∃ payload ∈ payload?, ∃ signature, sign payload = .ok signature
  /-- Its error is the first refusal of a text, or else the failure of the signer. -/
  fails_iff : ∀ sign error, build ⟨account, sign⟩ = .error error ↔
    (∃ refused, HexInput.firstRefusal? inputs = some refused ∧
      error = .invalidInput refused.message) ∨
    ∃ payload ∈ payload?, ∃ cause, sign payload = .error cause ∧ error = .ofKey cause
  /-- If a text is not read, the signer makes no difference. -/
  unasked : (¬ ∀ input ∈ inputs, input.IsSpelled) →
    ∀ sign sign', build ⟨account, sign⟩ = build ⟨account, sign'⟩
  /-- Writing does not fail. -/
  writes : ∀ sign reason, build ⟨account, sign⟩ ≠ .error (.serialization reason)
  /-- Where a text is wanted in any case, every failure is the empty one, and no success is. -/
  orEmpty_eq : ∀ sign,
    (∃ error, build ⟨account, sign⟩ = .error error ∧
      SignedText.orEmpty (build ⟨account, sign⟩) = "") ∨
    ∃ signed, build ⟨account, sign⟩ = .ok signed ∧
      SignedText.orEmpty (build ⟨account, sign⟩) = signed.text ∧ signed.text ≠ ""

namespace ComesOut

variable {build : Signer → Except WalletError SignedText} {account : Address}
  {inputs : List HexInput}

/-- A builder that reports the first refused text without asking the signer. -/
theorem of_refused {refused : ValueError} (hfirst : HexInput.firstRefusal? inputs = some refused)
    (hbuild : ∀ sign, build ⟨account, sign⟩ = .error (.ofValue refused)) :
    ComesOut build account inputs none := by
  have hunread : ¬ ∀ input ∈ inputs, input.IsSpelled := by
    rw [← HexInput.firstRefusal?_eq_none_iff, hfirst]
    exact Option.some_ne_none refused
  refine ⟨?_, ?_, ?_, ?_, ?_, ?_⟩
  · simp [hunread]
  · intro sign
    simp [hbuild, hunread]
  · intro sign error
    simp [hbuild, hfirst, WalletError.ofValue, eq_comm]
  · intro _ sign sign'
    rw [hbuild, hbuild]
  · intro sign reason
    simp [hbuild, WalletError.ofValue]
  · intro sign
    rw [hbuild]
    exact Or.inl ⟨.ofValue refused, rfl, rfl⟩

/-- A builder that reads all texts and writes what the signer answers. -/
theorem of_read {payload : List UInt8} {write : Signature → SignedText}
    (hfirst : HexInput.firstRefusal? inputs = none)
    (hwrite : ∀ signature, (write signature).text ≠ "")
    (hbuild : ∀ sign, build ⟨account, sign⟩ = (WalletError.liftKey (sign payload)).map write) :
    ComesOut build account inputs (some payload) := by
  have hread : ∀ input ∈ inputs, input.IsSpelled := HexInput.firstRefusal?_eq_none_iff.mp hfirst
  -- The builder adds nothing of its own to the signer's answer; every field is read off from this.
  have hanswer : ∀ sign, (∃ signature, sign payload = .ok signature ∧
      build ⟨account, sign⟩ = .ok (write signature)) ∨
      ∃ cause, sign payload = .error cause ∧ build ⟨account, sign⟩ = .error (.ofKey cause) := by
    intro sign
    rw [hbuild]
    cases sign payload with
    | ok signature => exact Or.inl ⟨signature, rfl, rfl⟩
    | error cause => exact Or.inr ⟨cause, rfl, rfl⟩
  refine ⟨?_, ?_, ?_, ?_, ?_, ?_⟩
  · simpa using hread
  · intro sign
    rcases hanswer sign with ⟨signature, hsign, hsigned⟩ | ⟨cause, hsign, hfailed⟩
    · simpa [hsign, hsigned] using hread
    · simp [hsign, hfailed]
  · intro sign error
    rcases hanswer sign with ⟨signature, hsign, hsigned⟩ | ⟨cause, hsign, hfailed⟩
    · simp [hsign, hsigned, hfirst]
    · simp [hsign, hfailed, hfirst, eq_comm]
  · intro hunread
    exact absurd hread hunread
  · intro sign reason
    rcases hanswer sign with ⟨signature, hsign, hsigned⟩ | ⟨cause, hsign, hfailed⟩
    · simp [hsigned]
    · rw [hfailed]
      cases cause <;> simp [WalletError.ofKey]
  · intro sign
    rcases hanswer sign with ⟨signature, hsign, hsigned⟩ | ⟨cause, hsign, hfailed⟩
    · rw [hsigned]
      exact Or.inr ⟨write signature, rfl, rfl, hwrite signature⟩
    · rw [hfailed]
      exact Or.inl ⟨.ofKey cause, rfl, rfl⟩

end ComesOut

/-- How an action on an asset comes out. -/
theorem comesOut_buildAssetAction (account : Address) (request : AssetRequest) :
    ComesOut (fun signer => signer.buildAssetAction request) account request.hexInputs
      ((request.transaction account).toOption.map AssetTransaction.payload) := by
  have hrefusal := request.error?_transaction account
  rcases hasset : request.transaction account with error | asset
  · rw [hasset, Except.error?, eq_comm, Option.map_eq_some_iff] at hrefusal
    obtain ⟨refused, hfirst, rfl⟩ := hrefusal
    apply ComesOut.of_refused hfirst
    intro sign
    rw [buildAssetAction, hasset, Except.error_bind]
  · rw [hasset, Except.error?, eq_comm, Option.map_eq_none_iff] at hrefusal
    exact ComesOut.of_read hrefusal (fun _ => Json.render_ne_empty (asset.exact_wireJson _ _ _))
      (buildAssetAction_of_transaction hasset)

/-- How a transfer comes out. -/
theorem comesOut_buildTransfer (account : Address) (recipient : String)
    (amount fee nonce : UInt64) (scope : ChainScope) :
    ComesOut (fun signer => signer.buildTransfer recipient amount fee nonce scope) account
      [⟨"address", recipient⟩]
      ((Address.ofHex recipient).toOption.map fun key =>
        (Transfer.mk account key amount fee nonce scope).payload) := by
  have hrefusal := Address.error?_ofHex recipient
  rw [← HexInput.firstRefusal?_singleton] at hrefusal
  rcases hread : Address.ofHex recipient with refused | key
  · rw [hread, Except.error?, eq_comm] at hrefusal
    apply ComesOut.of_refused hrefusal
    intro sign
    rw [buildTransfer, Transfer.toHexRecipient, hread]
    rfl
  · rw [hread, Except.error?, eq_comm] at hrefusal
    exact ComesOut.of_read hrefusal
      (fun signature => Json.render_ne_empty (Transfer.exact_wireJson _ signature))
      (buildTransfer_of_recipient hread)

/-- Builders are all or nothing. For every account and way to sign, an action on an asset depends on
the texts of the asset, of the owner if one is named and of the other asset if a merge names one, in
this order, and then on the signer's answer to the signed bytes; a transfer depends on the text of
the recipient alone and then on the signer. What is reported of a refused text is its wording, with
or without a transaction in between, and the failures of a signer keep what they say. -/
theorem builds_all_or_nothing (account : Address) :
    (∀ request : AssetRequest,
      ComesOut (fun signer => signer.buildAssetAction request) account request.hexInputs
        ((request.transaction account).toOption.map AssetTransaction.payload) ∧
      ((∀ input ∈ request.hexInputs, input.IsSpelled) ↔
        (∃ assetId : AssetId, assetId.IsSpelledBy request.assetId) ∧
        (∀ text, request.owner = some text → ∃ owner : FixedBytes 32, owner.IsSpelledBy text) ∧
        (request.action = .merge → ∀ text, request.metadata.get? otherAssetKey = some text →
          ∃ otherAsset : AssetId, otherAsset.IsSpelledBy text))) ∧
    (∀ (recipient : String) (amount fee nonce : UInt64) (scope : ChainScope),
      ComesOut (fun signer => signer.buildTransfer recipient amount fee nonce scope) account
        [⟨"address", recipient⟩]
        ((Address.ofHex recipient).toOption.map fun key =>
          (Transfer.mk account key amount fee nonce scope).payload)) ∧
    (∀ refused : ValueError, WalletError.ofValue refused = .invalidInput refused.message ∧
      WalletError.ofTransaction (.ofValue refused) = .invalidInput refused.message) ∧
    (∀ reason, WalletError.ofKey (.invalidSeed reason) = .invalidInput ("seed: " ++ reason)) ∧
    WalletError.ofKey .signingUnavailable = .signingUnavailable ∧
    (∀ length, WalletError.ofKey (.malformedSignature length) = .malformedSignature length) ∧
    ∀ reason, WalletError.ofKey (.entropy reason) = .key reason := by
  refine ⟨?_, comesOut_buildTransfer account, ?_, ?_, rfl, ?_, ?_⟩
  · intro request
    exact ⟨comesOut_buildAssetAction account request, request.forall_hexInputs_iff⟩
  · intro refused
    exact ⟨rfl, rfl⟩
  · intro reason
    simp [WalletError.ofKey, toString]
  · intro length
    rfl
  · intro reason
    rfl

end Signer

/-- A merge whose owner and other asset are spelled badly in different ways. -/
def AssetRequest.misspelled : AssetRequest :=
  { freelySpelled with
    owner := some "0g"
    metadata := .ofList [(otherAssetKey, "abc")] }

/-- The misspelled merge is refused for its owner, and for its other asset once the owner is left
out, whether or not the signer would sign; as an update it is then built. -/
theorem Signer.builds_all_or_nothing_misspelled :
    zeros.buildAssetAction .misspelled =
      .error (.invalidInput "invalid hex: Invalid character 'g' at position 1") ∧
    (BrokenSigning.unavailable.signer zeros.publicKey).buildAssetAction
        { AssetRequest.misspelled with owner := none } =
      .error (.invalidInput "invalid hex: Odd number of digits") ∧
    ∃ signed, zeros.buildAssetAction
      { AssetRequest.misspelled with owner := none, action := .update } = .ok signed := by
  obtain ⟨hasset, -⟩ := builds_all_or_nothing zeros.publicKey
  have howner : HexInput.firstRefusal? AssetRequest.misspelled.hexInputs =
      some (.invalidHex "Invalid character 'g' at position 1") := by
    decide +kernel
  have hother : HexInput.firstRefusal?
      { AssetRequest.misspelled with owner := none : AssetRequest }.hexInputs =
        some (.invalidHex "Odd number of digits") := by
    decide +kernel
  have hnone : HexInput.firstRefusal?
      { AssetRequest.misspelled with owner := none, action := .update : AssetRequest }.hexInputs =
        none := by
    decide +kernel
  refine ⟨((hasset _).1.fails_iff _ _).mpr (Or.inl ⟨_, howner, rfl⟩),
    ((hasset _).1.fails_iff _ _).mpr (Or.inl ⟨_, hother, rfl⟩),
    ((hasset _).1.succeeds_iff _).mpr ⟨HexInput.firstRefusal?_eq_none_iff.mp hnone, ?_⟩⟩
  exact ⟨_, rfl, _, rfl⟩

end OfflineSigner

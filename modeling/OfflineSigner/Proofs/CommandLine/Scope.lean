import OfflineSigner.Proofs.CommandLine.Signing
import OfflineSigner.Proofs.Transaction.Payload

/-!
# How the scope is resolved

The two fields of a scope are resolved on their own. An option counts before what the settings say,
and an expiry that is not given is computed when the height and the window are both known. The sum
stops at the largest number instead of starting again at zero, so a longer window or a later height
never makes a transaction expire earlier. What is present, zero too, is signed with eight bytes, and
these are the last bytes of the message that a command hands to the signer.
-/

namespace OfflineSigner

/-! ## Sums that stop at the largest number -/

/-- The sum is that of the numbers, or the largest number if this is smaller. -/
theorem toNat_saturatingAdd (a b : UInt64) :
    (saturatingAdd a b).toNat = min (a.toNat + b.toNat) (2 ^ 64 - 1) := by
  unfold saturatingAdd
  split
  · next hfits =>
    have hsum : a.toNat + b.toNat < 2 ^ 64 := hfits
    rw [UInt64.toNat_add, Nat.mod_eq_of_lt hsum]
    omega
  · next hlarge =>
    have hsum : ¬ a.toNat + b.toNat < 2 ^ 64 := hlarge
    rw [UInt64.toNat_ofNat_of_lt' (by decide)]
    omega

/-- The sum is not below the first number. -/
theorem le_saturatingAdd (a b : UInt64) : a ≤ saturatingAdd a b := by
  have ha := a.toNat_lt
  rw [UInt64.le_iff_toNat_le, toNat_saturatingAdd]
  omega

/-- Larger numbers have no smaller sum. -/
theorem saturatingAdd_le_saturatingAdd {a b a' b' : UInt64} (ha : a ≤ a') (hb : b ≤ b') :
    saturatingAdd a b ≤ saturatingAdd a' b' := by
  rw [UInt64.le_iff_toNat_le] at ha hb ⊢
  rw [toNat_saturatingAdd, toNat_saturatingAdd]
  omega

/-! ## The bytes of a scope end the message -/

/-- The signed bytes of a transfer are those of the unscoped transfer and those of its scope. -/
theorem Transfer.payload_eq_append_bytes (transfer : Transfer) :
    transfer.payload = { transfer with scope := .unscoped }.payload ++ transfer.scope.bytes := by
  simp [payload, ChainScope.bytes, ChainScope.values, ChainScope.unscoped]

/-- The signed bytes of an action on an asset are those of the unscoped one and those of its scope.
-/
theorem AssetTransaction.payload_eq_append_bytes (asset : AssetTransaction) :
    asset.payload = { asset with scope := .unscoped }.payload ++ asset.scope.bytes := by
  simp [payload, extraBytes, ChainScope.bytes, ChainScope.values, ChainScope.unscoped]

namespace Signer

/-- A builder that hands a message to the signer gives a text when the signer signs. -/
theorem HandsOver.exists_eq_ok {build : Signer → Except WalletError SignedText} {account : Address}
    {message : List UInt8} (h : HandsOver build account message) (signature : Signature) :
    ∃ signed, build ⟨account, fun _ => .ok signature⟩ = .ok signed := by
  obtain ⟨write, hwrite⟩ := h
  exact ⟨write signature, hwrite fun _ => .ok signature⟩

/-- Whatever the scope of a transfer, its bytes are put behind the same fields. -/
theorem exists_fields_of_transfer (account : Address) (recipient : String)
    (amount fee nonce : UInt64) : ∃ fields, ∀ scope message,
      HandsOver (fun signer => signer.buildTransfer recipient amount fee nonce scope) account
        message → message = fields ++ scope.bytes := by
  cases hread : Address.ofHex recipient with
  | error refused =>
    refine ⟨[], ?_⟩
    intro scope message hmessage
    obtain ⟨signed, hsigned⟩ := hmessage.exists_eq_ok ⟨.replicate 64 0⟩
    obtain ⟨key, _, hkey, _⟩ := buildTransfer_eq_ok_iff.mp hsigned
    cases hread.symm.trans hkey
  | ok key =>
    refine ⟨(Transfer.mk account key amount fee nonce .unscoped).payload, ?_⟩
    intro scope message hmessage
    rw [(handsOver_buildTransfer_iff hread message).mp hmessage, Transfer.payload_eq_append_bytes]

/-- Whatever the scope of an action on an asset, its bytes are put behind the same fields. -/
theorem exists_fields_of_assetAction (account : Address) (request : AssetRequest) :
    ∃ fields, ∀ scope message,
      HandsOver (fun signer => signer.buildAssetAction { request with scope := scope }) account
        message → message = fields ++ scope.bytes := by
  by_cases hmeans : ∃ asset, request.transaction account = .ok asset
  · obtain ⟨asset, hasset⟩ := hmeans
    obtain ⟨assetId, owner, extra, hid, howner, hextra, rfl⟩ :=
      AssetRequest.transaction_eq_ok_iff.mp hasset
    refine ⟨(AssetTransaction.mk account request.action assetId owner request.density extra
      request.fee request.nonce .unscoped).payload, ?_⟩
    intro scope message hmessage
    have hscoped : AssetRequest.transaction { request with scope := scope } account = .ok
        ⟨account, request.action, assetId, owner, request.density, extra, request.fee,
          request.nonce, scope⟩ :=
      AssetRequest.transaction_eq_ok_iff.mpr ⟨assetId, owner, extra, hid, howner, hextra, rfl⟩
    rw [(handsOver_buildAssetAction_iff hscoped message).mp hmessage,
      AssetTransaction.payload_eq_append_bytes]
  · refine ⟨[], ?_⟩
    intro scope message hmessage
    obtain ⟨signed, hsigned⟩ := hmessage.exists_eq_ok ⟨.replicate 64 0⟩
    obtain ⟨asset, _, hasset, _⟩ := buildAssetAction_eq_ok_iff.mp hsigned
    obtain ⟨assetId, owner, extra, hid, howner, hextra, -⟩ :=
      AssetRequest.transaction_eq_ok_iff.mp hasset
    exact absurd ⟨_, AssetRequest.transaction_eq_ok_iff.mpr
      ⟨assetId, owner, extra, hid, howner, hextra, rfl⟩⟩ hmeans

end Signer

namespace CommandLine

/-- Whatever the scope that a job is done with, its bytes are put behind the same fields. -/
theorem Command.exists_fields {command : Command} {job : SigningJob} (h : command.job? = some job)
    (account : Address) (fee nonce : UInt64) : ∃ fields, ∀ scope message,
      Signer.HandsOver (fun signer => job.build signer fee nonce scope) account message →
        message = fields ++ scope.bytes := by
  cases command with
  | keygen => contradiction
  | address seed => contradiction
  | transfer signing recipient amount =>
    obtain rfl := Option.some.inj h
    exact Signer.exists_fields_of_transfer account recipient amount.toUInt64 fee nonce
  | createAsset signing asset =>
    obtain rfl := Option.some.inj h
    exact Signer.exists_fields_of_assetAction account
      ⟨.create, asset.assetId, none, asset.density, .ofList asset.metadata, asset.gameId, fee,
        nonce, .unscoped⟩
  | assetAction signing asset action owner otherAsset components =>
    obtain rfl := Option.some.inj h
    exact Signer.exists_fields_of_assetAction account
      ⟨action, asset.assetId, owner, asset.density, addEntry (addEntry (.ofList asset.metadata)
        otherAssetKey otherAsset) componentsKey components, asset.gameId, fee, nonce, .unscoped⟩

namespace SigningOptions

/-! ## The two fields -/

/-- The expiry is computed from a height and a window. -/
structure ComputesExpiry (signing : SigningOptions) (settings : Settings)
    (height window : UInt64) : Prop where
  not_given : signing.validUntilHeight = none
  height_eq : signing.height = some height
  window_eq : settings.validityWindow = some window

/-- What options and settings say about a scope. -/
structure ResolvesTo (signing : SigningOptions) (settings : Settings) (scope : ChainScope) :
    Prop where
  /-- A chain that is given counts. -/
  chain_given : ∀ chain, signing.chainId = some chain → scope.chainId = some chain
  /-- Otherwise it is that of the settings, if they have one. -/
  chain_usual : signing.chainId = none → scope.chainId = settings.chainId
  /-- An expiry that is given counts. -/
  expiry_given : ∀ expiry, signing.validUntilHeight = some expiry →
    scope.validUntilHeight = some expiry
  /-- Otherwise it is the end of the window, or the largest number if the window ends behind it. -/
  expiry_computed : ∀ height window, signing.ComputesExpiry settings height window →
    ∃ expiry, scope.validUntilHeight = some expiry ∧
      expiry.toNat = min (height.toNat + window.toNat) (2 ^ 64 - 1)
  /-- If the height or the window is unknown, there is none. -/
  expiry_unknown : signing.validUntilHeight = none →
    signing.height = none ∨ settings.validityWindow = none → scope.validUntilHeight = none

variable {signing : SigningOptions} {settings : Settings}

/-- A computed expiry is the sum of the height and the window. -/
theorem ComputesExpiry.validUntilHeight_eq {height window : UInt64}
    (h : signing.ComputesExpiry settings height window) :
    (signing.scope settings).validUntilHeight = some (saturatingAdd height window) := by
  simp [scope, Settings.scopeAt, h.not_given, h.height_eq, h.window_eq]

/-- The scope is one that options and settings resolve to. -/
theorem resolvesTo_scope (signing : SigningOptions) (settings : Settings) :
    signing.ResolvesTo settings (signing.scope settings) where
  chain_given := by
    intro chain hchain
    simp [scope, hchain]
  chain_usual := by
    intro hchain
    simp [scope, Settings.scopeAt, hchain]
  expiry_given := by
    intro expiry hexpiry
    simp [scope, hexpiry]
  expiry_computed := by
    intro height window h
    exact ⟨_, h.validUntilHeight_eq, toNat_saturatingAdd height window⟩
  expiry_unknown := by
    intro hexpiry hunknown
    cases hunknown with
    | inl hheight => simp [scope, Settings.scopeAt, hexpiry, hheight]
    | inr hwindow => cases hheight : signing.height <;>
        simp [scope, Settings.scopeAt, hexpiry, hheight, hwindow]

/-- They resolve to no other scope. -/
theorem ResolvesTo.eq {scope scope' : ChainScope} (h : signing.ResolvesTo settings scope)
    (h' : signing.ResolvesTo settings scope') : scope = scope' := by
  have hchain : scope.chainId = scope'.chainId := by
    cases hgiven : signing.chainId with
    | none => rw [h.chain_usual hgiven, h'.chain_usual hgiven]
    | some chain => rw [h.chain_given chain hgiven, h'.chain_given chain hgiven]
  have hexpiry : scope.validUntilHeight = scope'.validUntilHeight := by
    cases hgiven : signing.validUntilHeight with
    | some expiry => rw [h.expiry_given expiry hgiven, h'.expiry_given expiry hgiven]
    | none =>
      cases hheight : signing.height with
      | none =>
        rw [h.expiry_unknown hgiven (Or.inl hheight), h'.expiry_unknown hgiven (Or.inl hheight)]
      | some height =>
        cases hwindow : settings.validityWindow with
        | none =>
          rw [h.expiry_unknown hgiven (Or.inr hwindow), h'.expiry_unknown hgiven (Or.inr hwindow)]
        | some window =>
          have hcomputes : signing.ComputesExpiry settings height window :=
            ⟨hgiven, hheight, hwindow⟩
          obtain ⟨expiry, hscope, hsum⟩ := h.expiry_computed height window hcomputes
          obtain ⟨expiry', hscope', hsum'⟩ := h'.expiry_computed height window hcomputes
          rw [hscope, hscope', UInt64.toNat_inj.mp (hsum.trans hsum'.symm)]
  cases scope
  cases scope'
  simp_all

/-- A chain is present when the options or the settings have one. -/
theorem isSome_chainId_scope :
    (signing.scope settings).chainId.isSome =
      (signing.chainId.isSome || settings.chainId.isSome) := by
  cases hgiven : signing.chainId <;> simp [scope, Settings.scopeAt, hgiven]

/-- An expiry is present when it is given or can be computed. -/
theorem isSome_validUntilHeight_scope :
    (signing.scope settings).validUntilHeight.isSome = (signing.validUntilHeight.isSome ||
      (signing.height.isSome && settings.validityWindow.isSome)) := by
  cases hgiven : signing.validUntilHeight <;> cases hheight : signing.height <;>
    cases hwindow : settings.validityWindow <;>
      simp [scope, Settings.scopeAt, hgiven, hheight, hwindow]

/-- Scopes are resolved field by field and never wrap. Options and settings resolve to one scope,
that of the transaction. A computed expiry is not below the height, and it is no earlier for a later
height and a longer window. The chain depends on nothing but the chain of the options and the
settings, and the expiry on nothing but the given one, the height and the window. The scope has
eight bytes for each field that is given, configured or computed, whatever its value; and whichever
command signs, it hands these bytes to the signer behind what it would hand over without a scope. -/
theorem scope_resolves (signing : SigningOptions) (settings : Settings) :
    (∀ scope, signing.ResolvesTo settings scope ↔ scope = signing.scope settings) ∧
    (∀ height window, signing.ComputesExpiry settings height window →
      ∃ expiry, (signing.scope settings).validUntilHeight = some expiry ∧ height ≤ expiry ∧
        ∀ (signing' : SigningOptions) (settings' : Settings) height' window',
          signing'.ComputesExpiry settings' height' window' → height ≤ height' →
            window ≤ window' → ∃ expiry',
              (signing'.scope settings').validUntilHeight = some expiry' ∧ expiry ≤ expiry') ∧
    (∀ (signing' : SigningOptions) (settings' : Settings),
      (signing.chainId = signing'.chainId → settings.chainId = settings'.chainId →
        (signing.scope settings).chainId = (signing'.scope settings').chainId) ∧
      (signing.validUntilHeight = signing'.validUntilHeight → signing.height = signing'.height →
        settings.validityWindow = settings'.validityWindow →
          (signing.scope settings).validUntilHeight =
            (signing'.scope settings').validUntilHeight)) ∧
    (signing.scope settings).bytes.length =
      8 * ((signing.chainId.isSome || settings.chainId.isSome).toNat +
        (signing.validUntilHeight.isSome ||
          (signing.height.isSome && settings.validityWindow.isSome)).toNat) ∧
    ∀ (command : Command) (job : SigningJob), command.job? = some job → job.signing = signing →
      ∀ account fee nonce, ∃ fields,
        (∀ message, Signer.HandsOver (fun signer => job.build signer fee nonce .unscoped) account
          message → message = fields) ∧
        ∀ message, Signer.HandsOver (fun signer => job.build signer fee nonce
          (job.signing.scope settings)) account message →
            message = fields ++ (signing.scope settings).bytes := by
  refine ⟨?_, ?_, ?_, ?_, ?_⟩
  · intro scope
    constructor
    · intro h
      exact h.eq (resolvesTo_scope signing settings)
    · intro h
      rw [h]
      exact resolvesTo_scope signing settings
  · intro height window h
    refine ⟨_, h.validUntilHeight_eq, le_saturatingAdd height window, ?_⟩
    intro signing' settings' height' window' h' hheight hwindow
    exact ⟨_, h'.validUntilHeight_eq, saturatingAdd_le_saturatingAdd hheight hwindow⟩
  · intro signing' settings'
    constructor
    · intro hgiven husual
      simp only [scope, Settings.scopeAt, hgiven, husual]
    · intro hgiven hheight hwindow
      simp only [scope, Settings.scopeAt, hgiven, hheight, hwindow]
  · rw [ChainScope.length_bytes, ChainScope.encodedLength, isSome_chainId_scope,
      isSome_validUntilHeight_scope]
  · intro command job hjob hsigning account fee nonce
    obtain ⟨fields, hfields⟩ := command.exists_fields hjob account fee nonce
    refine ⟨fields, ?_, ?_⟩
    · intro message hmessage
      rw [hfields .unscoped message hmessage]
      exact List.append_nil fields
    · intro message hmessage
      rw [hfields _ message hmessage, hsigning]

/-- The options of a signer of ones on the chain zero at a height. -/
def atHeight (height : UInt64) : SigningOptions :=
  ⟨KeyPair.onesText, none, 1, some 0, some height, none, false⟩

/-- Settings with a window and nothing else. -/
def windowOf (window : UInt64) : Settings :=
  { validityWindow := some window }

/-- A window of ten that begins four below the largest number ends at it; one that begins at zero
ends no later; and with the height and the window zero the two zeros of the scope take 16 bytes,
which end the message of a transfer. -/
theorem scope_resolves_nearEnd :
    (atHeight 18446744073709551611).ComputesExpiry (windowOf 10) 18446744073709551611 10 ∧
    (atHeight 0).ComputesExpiry (windowOf 0) 0 0 ∧
    (atHeight 18446744073709551611).ResolvesTo (windowOf 10)
      ⟨some 0, some 18446744073709551615⟩ ∧
    (∃ expiry expiry', ((atHeight 0).scope (windowOf 0)).validUntilHeight = some expiry ∧
      ((atHeight 18446744073709551611).scope (windowOf 10)).validUntilHeight = some expiry' ∧
        expiry ≤ expiry') ∧
    ((atHeight 0).scope (windowOf 0)).bytes.length = 16 ∧
    ∃ fields, (Transfer.mk KeyPair.ones.address ⟨.replicate 32 0xab⟩ 1 2 3
      ((atHeight 0).scope (windowOf 0))).payload =
        fields ++ ((atHeight 0).scope (windowOf 0)).bytes := by
  have hend : (atHeight 18446744073709551611).ComputesExpiry (windowOf 10)
      18446744073709551611 10 := ⟨rfl, rfl, rfl⟩
  have hzero : (atHeight 0).ComputesExpiry (windowOf 0) 0 0 := ⟨rfl, rfl, rfl⟩
  obtain ⟨hresolves, -, -, -, -⟩ := scope_resolves (atHeight 18446744073709551611) (windowOf 10)
  obtain ⟨-, hexpiry, -, hlength, hcommands⟩ := scope_resolves (atHeight 0) (windowOf 0)
  refine ⟨hend, hzero, ?_, ?_, ?_, ?_⟩
  · exact (hresolves _).mpr rfl
  · obtain ⟨expiry, hfirst, -, hlater⟩ := hexpiry 0 0 hzero
    obtain ⟨expiry', hsecond, hle⟩ := hlater _ _ _ _ hend (by decide) (by decide)
    exact ⟨expiry, expiry', hfirst, hsecond, hle⟩
  · exact hlength
  · have hkey : Address.ofHex Address.spacedText = .ok ⟨.replicate 32 0xab⟩ :=
      Address.ofHex_eq_ok_iff.mpr Address.isSpelledBy_spacedText
    obtain ⟨fields, -, hmessage⟩ := hcommands (.transfer (atHeight 0) Address.spacedText 1) _ rfl
      rfl KeyPair.ones.address 2 3
    exact ⟨fields, hmessage _ ((Signer.handsOver_buildTransfer_iff hkey _).mpr rfl)⟩

end SigningOptions

end CommandLine

end OfflineSigner

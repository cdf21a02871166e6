import OfflineSigner.Proofs.CommandLine.Signing

/-!
# The ways to create an asset

An asset can be created by a builder of its own, as one of the actions on assets, and by a command
for either. All of them sign the creation that the signer owns and write the same text: reserved
metadata is auxiliary data of other actions, so a creation carries it as free text whatever it
holds.
-/

namespace OfflineSigner

variable {assetId gameId : String} {density : Density} {metadata : Metadata} {fee nonce : UInt64}
  {scope : ChainScope}

/-- A request to create without an owner means the creation of the asset by the account that asks
for it, if the text names an asset. -/
theorem AssetRequest.transaction_create (account : Address) :
    AssetRequest.transaction ⟨.create, assetId, none, density, metadata, gameId, fee, nonce, scope⟩
      account = (WalletError.liftValue (FixedBytes.ofHex "asset id" assetId)).map fun id =>
        .create account id density fee nonce scope := by
  rw [transaction]
  cases WalletError.liftValue (FixedBytes.ofHex "asset id" assetId) <;> rfl

namespace Signer

/-- The message handed over for a creation is the signed bytes of the creation that the account
owns, and no other. -/
theorem handsOver_buildCreate_iff {account : Address} {id : AssetId}
    (h : FixedBytes.ofHex "asset id" assetId = .ok id) (message : List UInt8) :
    HandsOver (fun signer => signer.buildCreate assetId density metadata gameId fee nonce scope)
        account message ↔
      message = (AssetTransaction.create account id density fee nonce scope).payload := by
  apply handsOver_buildAssetAction_iff
  rw [AssetRequest.transaction_create, WalletError.liftValue_eq_ok_iff.mpr h]
  rfl

/-- An asset is created exactly when the text names one and the signer signs the bytes of its
creation. -/
theorem buildCreate_eq_ok_iff {signer : Signer} {signed : SignedText} :
    signer.buildCreate assetId density metadata gameId fee nonce scope = .ok signed ↔
      ∃ id signature, FixedBytes.ofHex "asset id" assetId = .ok id ∧
        signer.sign (AssetTransaction.create signer.publicKey id density fee nonce scope).payload =
          .ok signature ∧
        signed = ⟨((AssetTransaction.create signer.publicKey id density fee nonce scope).wireJson
          metadata gameId signature).render⟩ := by
  simp only [buildCreate, buildAssetAction_eq_ok_iff, AssetRequest.transaction_create]
  constructor
  · rintro ⟨asset, signature, hasset, hsignature, hsigned⟩
    obtain ⟨id, hid, rfl⟩ := Except.map_eq_ok_iff.mp hasset
    exact ⟨id, signature, WalletError.liftValue_eq_ok_iff.mp hid, hsignature, hsigned⟩
  · rintro ⟨id, signature, hid, hsignature, hsigned⟩
    refine ⟨_, signature, Except.map_eq_ok_iff.mpr ⟨id, ?_, rfl⟩, hsignature, hsigned⟩
    exact WalletError.liftValue_eq_ok_iff.mpr hid

end Signer

namespace CommandLine

/-- The job of creating an asset with the builder for creations. -/
def creationJob (signing : SigningOptions) (asset : AssetOptions) : SigningJob :=
  ⟨signing, none, fun signer =>
    signer.buildCreate asset.assetId asset.density (.ofList asset.metadata) asset.gameId⟩

/-- Both commands that can create do this job. -/
theorem job?_of_creates {signing : SigningOptions} {asset : AssetOptions} {command : Command}
    (h : command = .createAsset signing asset ∨
      command = .assetAction signing asset .create none none none) :
    command.job? = some (creationJob signing asset) := by
  rcases h with rfl | rfl <;> rfl

/-- Invocations whose commands do the same job under the same settings file give the same. -/
theorem Invocation.run_eq_of_job?_eq {σ : Type} (source : Entropy σ) (state : σ)
    {invocation other : Invocation} (hconfig : other.config = invocation.config) {job : SigningJob}
    (h : invocation.command.job? = some job) (h' : other.command.job? = some job)
    (contents : Except ReadFault (List UInt8)) :
    other.run source state contents = invocation.run source state contents := by
  have hsettings : other.settings contents = invocation.settings contents := by
    rw [settings, settings, hconfig]
  rw [run, run, hsettings]
  apply bind_congr
  intro settings
  apply bind_congr
  intro format
  rw [Command.run_eq_of_job? source state settings h,
    Command.run_eq_of_job? source state settings h']

/-- The ways to create an asset agree. The builder for creations gives what the builder for actions
gives for the creation without an owner, with its errors; when it gives a text, the message handed
to the signer is the signed bytes of the creation that the signer owns, and the text holds the
signature of it. Both commands end in the same way, and under settings that are in order they print
what the builder for creations gives, or fail as it does: what then stands on standard output is the
line of that builder, and nothing if it fails. -/
theorem creation_paths_agree :
    (∀ (signer : Signer) assetId density metadata gameId fee nonce scope,
      signer.buildCreate assetId density metadata gameId fee nonce scope =
        signer.buildAssetAction { AssetRequest.minimal .create assetId density with
          metadata, gameId, fee, nonce, scope } ∧
      ∀ signed, signer.buildCreate assetId density metadata gameId fee nonce scope = .ok signed →
        ∃ id signature, FixedBytes.ofHex "asset id" assetId = .ok id ∧
          (∀ message, Signer.HandsOver
              (fun other => other.buildCreate assetId density metadata gameId fee nonce scope)
              signer.publicKey message ↔
            message =
              (AssetTransaction.create signer.publicKey id density fee nonce scope).payload) ∧
          signer.sign
            (AssetTransaction.create signer.publicKey id density fee nonce scope).payload =
              .ok signature ∧
          signed = ⟨((AssetTransaction.create signer.publicKey id density fee nonce scope).wireJson
            metadata gameId signature).render⟩) ∧
    ∀ (σ : Type) (source : Entropy σ) state config logLevel logLevel' signing asset,
      let creation : Invocation := ⟨config, logLevel, .createAsset signing asset⟩
      let action : Invocation :=
        ⟨config, logLevel', .assetAction signing asset .create none none none⟩
      (∀ contents, creation.run source state contents = action.run source state contents ∧
        ∀ settings format, creation.settings contents = .ok settings →
          LogFormat.ofName settings.logFormat = .ok format →
            (creationJob signing asset).ComesOut settings (creation.run source state contents)) ∧
      ∀ environment words words', parse environment words = .ok (.run creation) →
        parse environment words' = .ok (.run action) → ∀ files,
          execute source state environment files words =
            execute source state environment files words' ∧
          (∀ settings format pair signed,
            creation.settings (files (config.getD "")) = .ok settings →
            LogFormat.ofName settings.logFormat = .ok format →
            KeyPair.ofSeedHex signing.seed = .ok pair →
            (∀ number ∈ (creationJob signing asset).numbers, 0 ≤ number.2) →
            (creationJob signing asset).built settings pair = .ok signed →
              (execute source state environment files words).standardOutput =
                (creationJob signing asset).shown signed ++ "\n") ∧
          ∀ failure, creation.run source state (files (config.getD "")) = .error failure →
            (execute source state environment files words).standardOutput = "" := by
  constructor
  · intro signer assetId density metadata gameId fee nonce scope
    refine ⟨rfl, ?_⟩
    intro signed hsigned
    obtain ⟨id, signature, hid, hsignature, htext⟩ := Signer.buildCreate_eq_ok_iff.mp hsigned
    exact ⟨id, signature, hid, Signer.handsOver_buildCreate_iff hid, hsignature, htext⟩
  · intro σ source state config logLevel logLevel' signing asset creation action
    have hcreation : creation.command.job? = some (creationJob signing asset) :=
      job?_of_creates (Or.inl rfl)
    have haction : action.command.job? = some (creationJob signing asset) :=
      job?_of_creates (Or.inr rfl)
    have hrun : ∀ contents, creation.run source state contents = action.run source state contents :=
      Invocation.run_eq_of_job?_eq source state rfl haction hcreation
    have hcomes : ∀ contents settings format, creation.settings contents = .ok settings →
        LogFormat.ofName settings.logFormat = .ok format →
          (creationJob signing asset).ComesOut settings (creation.run source state contents) := by
      intro contents settings format hsettings hformat
      rw [Invocation.run_of_ofName_eq_ok hsettings hformat,
        Command.run_eq_of_job? source state settings hcreation]
      exact SigningJob.comesOut_run fun pair signed => Command.newline_notMem_built hcreation
    refine ⟨fun contents => ⟨hrun contents, hcomes contents⟩, ?_⟩
    intro environment words words' hparse hparse' files
    refine ⟨?_, ?_, ?_⟩
    · have hsame := hrun (files (config.getD ""))
      cases haction : action.run source state (files (config.getD "")) with
      | ok text =>
        rw [execute_eq_printed hparse (hsame.trans haction), execute_eq_printed hparse' haction]
      | error failure =>
        rw [execute_eq_failed hparse (hsame.trans haction), execute_eq_failed hparse' haction]
    · intro settings format pair signed hsettings hformat hseed hnumbers hbuilt
      have hprints := ((hcomes _ settings format hsettings hformat).prints_iff _).mpr
        ⟨pair, signed, hseed, hnumbers, hbuilt, rfl⟩
      rw [execute_eq_printed hparse hprints, Outcome.standardOutput]
    · intro failure hfails
      rw [execute_eq_failed hparse hfails, Outcome.standardOutput]

/-- The words of a command about the freely spelled asset with garbage under a reserved key. -/
def reservedWords (command : List String) : List String :=
  command ++ ["--seed", KeyPair.onesText, "--nonce", "3", "--asset-id", Address.spacedText,
    "--meta", otherAssetKey ++ "=zz"]

/-- The options of these words about signing. -/
def reservedSigning : SigningOptions := ⟨KeyPair.onesText, none, 3, none, none, none, false⟩

/-- The options of these words about the asset. -/
def reservedAsset : AssetOptions := ⟨Address.spacedText, .ethereal, [(otherAssetKey, "zz")], ""⟩

/-- Garbage under a reserved key refuses no creation: the message is that of the asset, and the
words of either command end in the same way and print what the builder gives. -/
theorem creation_paths_agree_reserved :
    ∃ signed, KeyPair.ones.signer.buildCreate Address.spacedText .ethereal
        (.ofList [(otherAssetKey, "zz")]) "" 0 3 .unscoped = .ok signed ∧
      (∃ id, FixedBytes.ofHex "asset id" Address.spacedText = (.ok id : Except ValueError AssetId) ∧
        Signer.HandsOver (fun other => other.buildCreate Address.spacedText .ethereal
            (.ofList [(otherAssetKey, "zz")]) "" 0 3 .unscoped) KeyPair.ones.address
          (AssetTransaction.create KeyPair.ones.address id .ethereal 0 3 .unscoped).payload) ∧
      (Invocation.mk none none (.createAsset reservedSigning reservedAsset)).run SeedCycle.source
        (.ofList []) (.error .notFound) = .ok (signed.text ++ "\n") ∧
      (execute SeedCycle.source (.ofList []) (fun _ => none) (fun _ => .error .notFound)
        (reservedWords ["create-asset"])).standardOutput = signed.text ++ "\n" ∧
      execute SeedCycle.source (.ofList []) (fun _ => none) (fun _ => .error .notFound)
          (reservedWords ["create-asset"]) =
        execute SeedCycle.source (.ofList []) (fun _ => none) (fun _ => .error .notFound)
          (reservedWords ["asset-action", "--action", "create"]) := by
  have hcreation : parse (fun _ => none) (reservedWords ["create-asset"]) =
      .ok (.run ⟨none, none, .createAsset reservedSigning reservedAsset⟩) := by
    rfl
  have haction : parse (fun _ => none) (reservedWords ["asset-action", "--action", "create"]) =
      .ok (.run ⟨none, none,
        .assetAction reservedSigning reservedAsset .create none none none⟩) := by
    rfl
  have hid : (FixedBytes.ofHex "asset id" Address.spacedText : Except ValueError AssetId) =
      .ok (.replicate 32 0xab) :=
    FixedBytes.ofHex_eq_ok_iff.mpr Address.isSpelledBy_spacedText
  obtain ⟨signed, hbuilt⟩ : ∃ signed, KeyPair.ones.signer.buildCreate Address.spacedText .ethereal
      (.ofList [(otherAssetKey, "zz")]) "" 0 3 .unscoped = .ok signed :=
    ⟨_, Signer.buildCreate_eq_ok_iff.mpr ⟨_, _, hid, rfl, rfl⟩⟩
  obtain ⟨hbuilders, hcommands⟩ := creation_paths_agree
  obtain ⟨-, hsigned⟩ := hbuilders KeyPair.ones.signer Address.spacedText .ethereal
    (.ofList [(otherAssetKey, "zz")]) "" 0 3 .unscoped
  obtain ⟨id, signature, hofHex, hmessage, -, -⟩ := hsigned signed hbuilt
  obtain ⟨hruns, hends⟩ := hcommands _ SeedCycle.source (.ofList []) none none none reservedSigning
    reservedAsset
  obtain ⟨-, hcomes⟩ := hruns (.error .notFound)
  have hprints := (hcomes .default .human rfl rfl).prints_iff (signed.text ++ "\n")
  obtain ⟨hsame, hline, -⟩ := hends _ _ _ hcreation haction fun _ => .error .notFound
  exact ⟨signed, hbuilt, ⟨id, hofHex, (hmessage _).mpr rfl⟩,
    hprints.mpr ⟨.ones, signed, KeyPair.ofSeedHex_onesText, by decide, hbuilt, rfl⟩,
    hline .default .human .ones signed rfl rfl KeyPair.ofSeedHex_onesText (by decide) hbuilt, hsame⟩

end CommandLine

end OfflineSigner

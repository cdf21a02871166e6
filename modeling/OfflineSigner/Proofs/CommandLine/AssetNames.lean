import OfflineSigner.Proofs.Asset.Vocabulary
import OfflineSigner.Proofs.CommandLine.Metadata
import OfflineSigner.Proofs.CommandLine.Signing
import OfflineSigner.Proofs.Wallet.AssetReading

/-!
# From a typed name to the signed byte

The name of an action or a density is typed by a user and read, the code of what was read is signed,
and its name is written into the text that is printed. Nothing is lost on the way: typed name,
signed byte and printed name stand for the same action and the same density, whoever signs and
however a name is typed, and a typed name that stands for none is not read at all.
-/

namespace OfflineSigner

/-- The names in a signed text, the codes in the message that was signed and two typed texts denote
the same action and the same density. -/
def SignedText.AgreesWith (signed : SignedText) (message : List UInt8) (action density : String) :
    Prop :=
  ∃ json content data, Json.parse? signed.text = some json ∧
    json.member? "MistbornAsset" = some content ∧ content.member? "data" = some data ∧
    AssetAction.vocabulary.Agree action message[45]? (content.member? "action") ∧
    Density.vocabulary.Agree density message[110]? (data.member? "density")

/-- The written form of an action on an asset holds the names of the action and the density. -/
theorem AssetTransaction.exists_members_wireJson (asset : AssetTransaction) (metadata : Metadata)
    (gameId : String) (signature : Signature) :
    ∃ content data,
      (asset.wireJson metadata gameId signature).member? "MistbornAsset" = some content ∧
      content.member? "data" = some data ∧
      content.member? "action" = some (.string asset.action.name) ∧
      data.member? "density" = some (.string asset.density.name) := by
  refine ⟨_, _, rfl, rfl, ?_, ?_⟩
  · simp [Json.member?, List.lookup_cons, AssetAction.toJson]
  · simp [Json.member?, Density.toJson]

/-- If two typed texts are read as the action and the density of a request, what a signer builds for
the request agrees with them, and so does the one message that is handed to the signer. -/
theorem Signer.exists_agreesWith {signer : Signer} {request : AssetRequest} {signed : SignedText}
    {action density : String} (h : signer.buildAssetAction request = .ok signed)
    (haction : AssetAction.ofName action = .ok request.action)
    (hdensity : Density.ofName density = .ok request.density) :
    ∃ message,
      (∀ other, HandsOver (fun signer => signer.buildAssetAction request) signer.publicKey other ↔
        other = message) ∧
      signed.AgreesWith message action density := by
  obtain ⟨asset, signature, hasset, -, rfl⟩ := buildAssetAction_eq_ok_iff.mp h
  refine ⟨asset.payload, handsOver_buildAssetAction_iff hasset, ?_⟩
  obtain ⟨content, data, hcontent, hdata, hactionName, hdensityName⟩ :=
    asset.exists_members_wireJson request.metadata request.gameId signature
  refine ⟨_, content, data, Json.parse?_render (asset.exact_wireJson _ _ _), hcontent, hdata, ?_⟩
  rw [asset.getElem?_payload_action, asset.getElem?_payload_density, hactionName, hdensityName]
  obtain ⟨assetId, owner, extra, -, -, -, rfl⟩ := AssetRequest.transaction_eq_ok_iff.mp hasset
  exact ⟨AssetAction.agree haction, Density.agree hdensity⟩

namespace CommandLine

open OfflineSigner.Except

section

variable {α : Type} {name : String} {ofName : String → Except ValueError α} {given : Given}
  {value : α}

/-- A name that is given is read as such. -/
theorem valueOf_readName_eq_ok_iff {text : String} :
    OptionReader.valueOf name (readName ofName) text = .ok value ↔ ofName text = .ok value := by
  rw [OptionReader.valueOf, mapError_eq_ok_iff, readName, mapError_eq_ok_iff]

/-- A name that has to be given is read. -/
theorem build_required_readName_eq_ok_iff :
    (OptionReader.required name (readName ofName)).build given = .ok value ↔
      ∃ text, given.lookup name = some text ∧ ofName text = .ok value := by
  simp only [OptionReader.required]
  cases given.lookup name with
  | none => simp
  | some text => simp [valueOf_readName_eq_ok_iff]

/-- A name that need not be given is read, and the default is as good as its name. -/
theorem ofName_of_build_withDefault {default : α} {usual : String}
    (husual : ofName usual = .ok default)
    (h : (OptionReader.withDefault name (readName ofName) default).build given = .ok value) :
    ofName ((given.lookup name).getD usual) = .ok value := by
  simp only [OptionReader.withDefault] at h
  cases hlookup : given.lookup name with
  | none =>
    simp only [hlookup] at h
    cases h
    exact husual
  | some text =>
    simp only [hlookup] at h
    exact valueOf_readName_eq_ok_iff.mp h

/-- The density of an asset is read from what is given for it. -/
theorem ofName_of_build_assetOptions {options : AssetOptions}
    (h : assetOptions.build given = .ok options) :
    Density.ofName ((given.lookup "density").getD Density.ethereal.name) = .ok options.density := by
  simp only [assetOptions, OptionReader.build_seq_eq_ok_iff] at h
  obtain ⟨_, _, ⟨_, _, ⟨_, density, hassetId, hdensity, rfl⟩, -, rfl⟩, -, rfl⟩ := h
  obtain ⟨assetId, -, rfl⟩ := map_eq_ok_iff.mp hassetId
  exact ofName_of_build_withDefault rfl hdensity

end

namespace AssetLine

variable {environment : String → Option String}

/-- The name that a line gives for the action; the command that creates an asset has no option for
it. -/
def actionText (line : AssetLine) : String :=
  (line.value? "action").getD AssetAction.create.name

/-- The name that a line gives for the density. -/
def densityText (line : AssetLine) : String :=
  (line.value? "density").getD Density.ethereal.name

/-- The names on a line are read as the action and the density of the request that it asks for. -/
theorem ofName_of_read {line : AssetLine} {command : Command} {signing : SigningOptions}
    {request : AssetRequest} (h : line.reader.read environment line.occurrences = .ok command)
    (hrequest : command.assetRequest? = some (signing, request)) :
    AssetAction.ofName line.actionText = .ok request.action ∧
      Density.ofName line.densityText = .ok request.density := by
  obtain ⟨-, given, hbuild, hvalues⟩ := exists_build_of_read h
  rw [actionText, densityText, ← lookup_eq_value? (hvalues "density" (by decide))]
  rcases reader_eq_of_mem_assetCommands line.mem_assetCommands with hreader | hreader
  · have hnone : line.value? "action" = none := value?_eq_none (by rw [hreader]; rfl)
    rw [hreader] at hbuild
    obtain ⟨_, asset, hsigning, hasset, rfl⟩ := OptionReader.build_seq_eq_ok_iff.mp hbuild
    obtain ⟨_, -, rfl⟩ := map_eq_ok_iff.mp hsigning
    cases hrequest
    rw [hnone]
    exact ⟨rfl, ofName_of_build_assetOptions hasset⟩
  · rw [hreader] at hbuild
    simp only [actionReader, OptionReader.build_seq_eq_ok_iff] at hbuild
    obtain ⟨_, _, ⟨_, _, ⟨_, _, ⟨_, action, ⟨_, asset, hsigning, hasset, rfl⟩, haction, rfl⟩, -, rfl⟩,
      -, rfl⟩, -, rfl⟩ := hbuild
    obtain ⟨_, -, rfl⟩ := map_eq_ok_iff.mp hsigning
    obtain ⟨text, htext, hread⟩ := build_required_readName_eq_ok_iff.mp haction
    cases hrequest
    rw [← lookup_eq_value? (hvalues "action" (by decide)), htext]
    exact ⟨hread, ofName_of_build_assetOptions hasset⟩

end AssetLine

/-- What is printed for a request is made of what the library builds for the key pair of the seed,
for the action and the density of the request. -/
theorem exists_built_of_run {σ : Type} {source : Entropy σ} {state : σ} {invocation : Invocation}
    {contents : Except ReadFault (List UInt8)} {text : String} {signing : SigningOptions}
    {request : AssetRequest}
    (hrequest : invocation.command.assetRequest? = some (signing, request))
    (h : invocation.run source state contents = .ok text) :
    ∃ pair sent signed, KeyPair.ofSeedHex signing.seed = .ok pair ∧
      sent.action = request.action ∧ sent.density = request.density ∧
      pair.signer.buildAssetAction sent = .ok signed ∧ text = signing.line signed := by
  obtain ⟨settings, -, hnamed⟩ := bind_eq_ok_iff.mp h
  obtain ⟨_, -, hrun⟩ := bind_eq_ok_iff.mp hnamed
  rw [Command.run_eq_signAsset source state settings hrequest, signAsset_eq] at hrun
  obtain ⟨pair, signed, hpair, -, hbuilt, rfl⟩ := SigningJob.run_eq_ok_iff.mp hrun
  exact ⟨pair, { request with
    fee := (signing.fee.map Int64.toUInt64).getD settings.defaultFee
    nonce := signing.nonce.toUInt64
    scope := signing.scope settings }, signed, hpair, rfl, rfl, hbuilt, rfl⟩

/-- Names are read exactly, and what is read is what is signed and written. A text is read as an
action or a density exactly when it is its name up to white space at the ends and the case of ASCII
letters; this holds for one name at most, whatever the order of the list that is searched, and every
other text is refused as it was typed. Codes and JSON values are read as exactly as names, so the
name that is typed for an action or a density, its byte in the signed message and its name in JSON
denote the same: in every transaction about an asset, in what is built for every request and in what
is printed for every command line. -/
theorem names_denote_one_variant :
    AssetAction.vocabulary.IsExact ∧ Density.vocabulary.IsExact ∧
    (∀ (asset : AssetTransaction) action density, AssetAction.ofName action = .ok asset.action →
      Density.ofName density = .ok asset.density →
        AssetAction.vocabulary.Agree action asset.payload[45]? (asset.toJson.member? "action") ∧
        Density.vocabulary.Agree density asset.payload[110]? (asset.toJson.member? "density")) ∧
    (∀ (signer : Signer) request signed action density,
      signer.buildAssetAction request = .ok signed → AssetAction.ofName action = .ok request.action →
        Density.ofName density = .ok request.density → ∃ message,
          (∀ other, Signer.HandsOver (fun signer => signer.buildAssetAction request)
            signer.publicKey other ↔ other = message) ∧
          signed.AgreesWith message action density) ∧
    (∀ environment words invocation, parse environment words = .ok (.run invocation) →
      invocation.command.assetRequest? ≠ none → ∃ line : AssetLine, line.words = words) ∧
    ∀ environment (line : AssetLine) invocation signing request,
      parse environment line.words = .ok (.run invocation) →
      invocation.command.assetRequest? = some (signing, request) →
        ∀ (σ : Type) (source : Entropy σ) state contents text,
          invocation.run source state contents = .ok text → ∃ pair sent signed message,
            KeyPair.ofSeedHex signing.seed = .ok pair ∧
            pair.signer.buildAssetAction sent = .ok signed ∧
            (∀ other, Signer.HandsOver (fun signer => signer.buildAssetAction sent)
              pair.signer.publicKey other ↔ other = message) ∧
            text = signing.line signed ∧
            signed.AgreesWith message line.actionText line.densityText := by
  refine ⟨AssetAction.isExact_vocabulary, Density.isExact_vocabulary, ?_, ?_, ?_, ?_⟩
  · intro asset action density haction hdensity
    exact asset.agree haction hdensity
  · intro signer request signed action density hbuilt haction hdensity
    exact Signer.exists_agreesWith hbuilt haction hdensity
  · intro environment words invocation hparse hrequest
    exact AssetLine.exists_of_parse hparse hrequest
  · intro environment line invocation signing request hparse hrequest σ source state contents text
      hrun
    obtain ⟨haction, hdensity⟩ := AssetLine.ofName_of_read (AssetLine.read_of_parse hparse) hrequest
    obtain ⟨pair, sent, signed, hpair, hsentAction, hsentDensity, hbuilt, htext⟩ :=
      exists_built_of_run hrequest hrun
    obtain ⟨message, hmessage, hagrees⟩ :=
      Signer.exists_agreesWith hbuilt (hsentAction ▸ haction) (hsentDensity ▸ hdensity)
    exact ⟨pair, sent, signed, message, hpair, hbuilt, hmessage, htext, hagrees⟩

/-- A line that names an action and a density in mixed case between white space of several kinds. -/
def mixedCaseLine : AssetLine where
  front := []
  leading := []
  name := "asset-action"
  reader := actionReader
  rest := ["--seed", KeyPair.onesText, "--nonce", "3", "--asset-id", Address.spacedText,
    "--action=\u3000cONDENSE\t", "--density", " CorE\u2029"]
  occurrences := [
    ⟨{ OptionReader.shapeOf "seed" readText with fallback? := "HAZE_SEED" }, KeyPair.onesText⟩,
    ⟨{ OptionReader.shapeOf "nonce" readInt64 with allowsNegative := true }, "3"⟩,
    ⟨OptionReader.shapeOf "asset-id" readText, Address.spacedText⟩,
    ⟨OptionReader.shapeOf "action" (readName AssetAction.ofName), "\u3000cONDENSE\t"⟩,
    ⟨OptionReader.shapeOf "density" (readName Density.ofName), " CorE\u2029"⟩]
  spells_front := .nil
  mem_assetCommands := actionReader_mem_assetCommands
  spells_rest := by
    refine .detached rfl rfl rfl (Or.inl rfl) (.detached rfl rfl rfl (Or.inl rfl) ?_)
    refine .detached rfl rfl rfl (Or.inl rfl) (.attached rfl rfl rfl ?_)
    exact .detached rfl rfl rfl (Or.inl rfl) .nil

/-- The options of this line about signing. -/
def mixedCaseSigning : SigningOptions := ⟨KeyPair.onesText, none, 3, none, none, none, false⟩

/-- What this line asks for. -/
def mixedCaseInvocation : Invocation :=
  ⟨none, none, .assetAction mixedCaseSigning ⟨Address.spacedText, .core, [], ""⟩ .condense none none
    none⟩

/-- Something is printed for it. -/
theorem exists_run_mixedCase : ∃ text,
    mixedCaseInvocation.run SeedCycle.source (.ofList []) (.error .notFound) = .ok text := by
  have hid : (FixedBytes.ofHex "asset id" Address.spacedText : Except ValueError AssetId) =
      .ok (.replicate 32 0xab) :=
    FixedBytes.ofHex_eq_ok_iff.mpr Address.isSpelledBy_spacedText
  obtain ⟨signed, hbuilt⟩ : ∃ signed, KeyPair.ones.signer.buildAssetAction
      ⟨.condense, Address.spacedText, none, .core, .ofList [], "", 0, 3, .unscoped⟩ = .ok signed :=
    ⟨_, Signer.buildAssetAction_eq_ok_iff.mpr ⟨_, _,
      AssetRequest.transaction_eq_ok_iff.mpr ⟨_, _, _, hid, rfl, rfl, rfl⟩, rfl, rfl⟩⟩
  have hsettings : mixedCaseInvocation.settings (.error .notFound) = .ok .default := rfl
  have hformat : LogFormat.ofName Settings.default.logFormat = .ok .human := rfl
  have hcommand : mixedCaseInvocation.command.assetRequest? = some _ := rfl
  refine ⟨mixedCaseSigning.line signed, ?_⟩
  rw [Invocation.run_of_ofName_eq_ok hsettings hformat, Command.run_eq_signAsset _ _ _ hcommand,
    signAsset_eq]
  exact SigningJob.run_eq_ok_iff.mpr
    ⟨.ones, signed, KeyPair.ofSeedHex_onesText, by decide, hbuilt, rfl⟩

/-- The line is printed for: the message that is signed for it has the codes of the names that were
typed, and the names stand in the text. A text that only looks like a name is refused, as is a name
with a letter that folds to one of its own. -/
theorem names_denote_one_variant_mixedCase :
    (∃ (text : String) (signed : SignedText) (message : List UInt8),
      mixedCaseInvocation.run SeedCycle.source (.ofList []) (.error .notFound) = .ok text ∧
      text = mixedCaseSigning.line signed ∧ message[45]? = some 2 ∧ message[110]? = some 3 ∧
      ∃ json content data, Json.parse? signed.text = some json ∧
        json.member? "MistbornAsset" = some content ∧ content.member? "data" = some data ∧
        content.member? "action" = some (.string "Condense") ∧
        data.member? "density" = some (.string "Core")) ∧
    Density.ofName " \u0421ore" = .error (.invalidName " \u0421ore") ∧
    AssetAction.ofName "\u017fplit" = .error (.invalidName "\u017fplit") := by
  obtain ⟨hactions, hdensities, -, -, -, hprinted⟩ := names_denote_one_variant
  refine ⟨?_, ?_, ?_⟩
  · have hparse : parse (fun _ => none) mixedCaseLine.words = .ok (.run mixedCaseInvocation) := by
      rfl
    obtain ⟨text, hrun⟩ := exists_run_mixedCase
    obtain ⟨pair, sent, signed, message, -, -, -, htext, json, content, data, hjson, hcontent, hdata,
      hagrees, hagrees'⟩ := hprinted (fun _ => none) mixedCaseLine mixedCaseInvocation _ _ hparse rfl
        _ _ _ _ text hrun
    have haction : AssetAction.vocabulary.ofName mixedCaseLine.actionText = .ok .condense := by
      rfl
    have hdensity : Density.vocabulary.ofName mixedCaseLine.densityText = .ok .core := by
      rfl
    refine ⟨text, signed, message, hrun, htext, ?_, ?_, json, content, data, hjson, hcontent, hdata,
      ?_, ?_⟩
    · exact ((hagrees .condense).out 1 2).mp haction
    · exact ((hagrees' .core).out 1 2).mp hdensity
    · exact ((hagrees .condense).out 1 4).mp haction
    · exact ((hagrees' .core).out 1 4).mp hdensity
  · rw [← Density.vocabulary_ofName]
    exact hdensities.readsNames.ascii _ '\u0421' (by decide) (by decide)
  · rw [← AssetAction.vocabulary_ofName]
    exact hactions.readsNames.ascii _ '\u017f' (by decide) (by decide)

end CommandLine

end OfflineSigner

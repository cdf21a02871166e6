import OfflineSigner.Proofs.Json.ReadBack
import OfflineSigner.Settings.Basic
import OfflineSigner.Transaction.Format
import OfflineSigner.Transaction.Payload

/-!
# Values survive as JSON text

Every value that can be written as JSON is read back from its text: keys and names, scopes,
auxiliary data, transactions of both kinds and settings. So different values have different texts,
what is absent stays absent, and a transaction that is read again has the bytes to be signed that
it had before.
-/

namespace OfflineSigner

open Json (ReadsBack SurvivesAsText readText?)
open RecordReader (accepts_required accepts_withDefault)

/-- Addresses are read back. -/
theorem Address.readsBack : ReadsBack toJson ofJson :=
  ⟨fun _ => .string _, ofJson_toJson⟩

/-- Signatures are read back. -/
theorem Signature.readsBack : ReadsBack toJson ofJson :=
  ⟨fun _ => .string _, ofJson_toJson⟩

/-- Densities are read back. -/
theorem Density.readsBack : ReadsBack toJson ofJson :=
  ⟨fun _ => .string _, ofJson_toJson⟩

/-- Actions are read back. -/
theorem AssetAction.readsBack : ReadsBack toJson ofJson :=
  ⟨fun _ => .string _, ofJson_toJson⟩

/-- Scopes are read back, each field as a value or as absent. -/
theorem ChainScope.readsBack : ReadsBack toJson ofJson where
  exact scope := by
    simp [toJson, Json.readsBack_ofOption_ofUInt64.exact]
  read_write scope := by
    have hfields : reader.Accepts (scope.toJson.member? ·) scope :=
      ((accepts_withDefault Json.readsBack_ofOption_ofUInt64 rfl none).map mk).seq
        (accepts_withDefault Json.readsBack_ofOption_ofUInt64 rfl none)
    exact hfields.ofJson_eq ⟨_, rfl, by simp⟩

/-- Auxiliary data is read back, whatever action it belongs to. -/
theorem AssetExtra.readsBack : ReadsBack toJson ofJson where
  exact extra := by
    cases extra with
    | none => exact .string _
    | merge otherAsset => simp [toJson, Json.tagged, (Json.readsBack_ofBytes 32).exact otherAsset]
    | split components => simp [toJson, Json.tagged, Json.Exact.string]
  read_write extra := by
    cases extra with
    | none => rfl
    | merge otherAsset =>
      have hfield :
          (merge <$> RecordReader.required "other_asset_id" (Json.readFixedBytes 32)).Accepts
          (List.lookup · [("other_asset_id", .ofBytes otherAsset.toList)]) (merge otherAsset) :=
        (accepts_required (Json.readsBack_ofBytes 32) rfl).map merge
      exact hfield.ofMembers_eq (by simp)
    | split components =>
      have hfield : (split <$> RecordReader.required "components" Json.readString).Accepts
          (List.lookup · [("components", .string components)]) (split components) :=
        (accepts_required Json.readsBack_string rfl).map split
      exact hfield.ofMembers_eq (by simp)

/-- Transfers are read back. -/
theorem Transfer.readsBack : ReadsBack toJson ofJson where
  exact transfer := by
    simp [toJson, Address.readsBack.exact, ChainScope.readsBack.exact]
  read_write transfer := by
    have hfields : reader.Accepts (transfer.toJson.member? ·) transfer :=
      ((accepts_required Address.readsBack rfl).map mk)
        |>.seq (accepts_required Address.readsBack rfl)
        |>.seq (accepts_required Json.readsBack_ofUInt64 rfl)
        |>.seq (accepts_required Json.readsBack_ofUInt64 rfl)
        |>.seq (accepts_required Json.readsBack_ofUInt64 rfl)
        |>.seq (accepts_withDefault ChainScope.readsBack rfl .unscoped)
    exact hfields.ofJson_eq ⟨_, rfl, by simp⟩

/-- Actions on assets are read back. -/
theorem AssetTransaction.readsBack : ReadsBack toJson ofJson where
  exact asset := by
    simp [toJson, Address.readsBack.exact, AssetAction.readsBack.exact, Density.readsBack.exact,
      AssetExtra.readsBack.exact, ChainScope.readsBack.exact,
      (Json.readsBack_ofBytes 32).exact asset.assetId]
  read_write asset := by
    have hfields : reader.Accepts (asset.toJson.member? ·) asset :=
      ((accepts_required Address.readsBack rfl).map mk)
        |>.seq (accepts_required AssetAction.readsBack rfl)
        |>.seq (accepts_required (Json.readsBack_ofBytes 32) rfl)
        |>.seq (accepts_required Address.readsBack rfl)
        |>.seq (accepts_required Density.readsBack rfl)
        |>.seq (accepts_withDefault AssetExtra.readsBack rfl .none)
        |>.seq (accepts_required Json.readsBack_ofUInt64 rfl)
        |>.seq (accepts_required Json.readsBack_ofUInt64 rfl)
        |>.seq (accepts_withDefault ChainScope.readsBack rfl .unscoped)
    exact hfields.ofJson_eq ⟨_, rfl, by simp⟩

/-- What stands under the name of transfers is read as one. -/
theorem Transaction.ofJson_tagged_transfer (content : Json) :
    ofJson (.tagged "Transfer" content) = (Transfer.ofJson content).map transfer := by
  rfl

/-- What stands under the name of actions on assets is read as one. -/
theorem Transaction.ofJson_tagged_asset (content : Json) :
    ofJson (.tagged "MistbornAsset" content) = (AssetTransaction.ofJson content).map asset := by
  rfl

/-- Transactions of either kind are read back. -/
theorem Transaction.readsBack : ReadsBack toJson ofJson where
  exact transaction := by
    cases transaction with
    | transfer content => simp [toJson, Json.tagged, contentJson, Transfer.readsBack.exact]
    | asset content => simp [toJson, Json.tagged, contentJson, AssetTransaction.readsBack.exact]
  read_write transaction := by
    cases transaction with
    | transfer content =>
      rw [toJson, kind, contentJson, ofJson_tagged_transfer, Transfer.readsBack.read_write,
        Except.map]
    | asset content =>
      rw [toJson, kind, contentJson, ofJson_tagged_asset, AssetTransaction.readsBack.read_write,
        Except.map]

/-- Settings are read back, with log formats and filters of any characters. -/
theorem Settings.readsBack : ReadsBack toJson ofJson where
  exact settings := by
    simp [toJson, Json.readsBack_ofOption_ofUInt64.exact, Json.Exact.string]
  read_write settings := by
    have hfields : reader.Accepts (settings.toJson.member? ·) settings :=
      ((accepts_withDefault Json.readsBack_ofOption_ofUInt64 rfl _).map mk)
        |>.seq (accepts_withDefault Json.readsBack_ofOption_ofUInt64 rfl _)
        |>.seq (accepts_withDefault Json.readsBack_ofUInt64 rfl _)
        |>.seq (accepts_withDefault Json.readsBack_string rfl _)
        |>.seq (accepts_withDefault Json.readsBack_string rfl _)
    exact hfields.ofJson_eq ⟨_, rfl, by simp⟩

/-- Every value survives as JSON text: the text of an address, a signature, a density, an action, a
scope, auxiliary data, a transaction or settings is read as the value it was written for, and no two
values of a type have the same text. A field of a scope that is absent is absent when it is read
again, so it never becomes a zero, and a transaction that is read again has the same bytes to be
signed. -/
theorem values_survive_as_text :
    SurvivesAsText Address.toJson Address.ofJson ∧
    SurvivesAsText Signature.toJson Signature.ofJson ∧
    SurvivesAsText Density.toJson Density.ofJson ∧
    SurvivesAsText AssetAction.toJson AssetAction.ofJson ∧
    SurvivesAsText ChainScope.toJson ChainScope.ofJson ∧
    SurvivesAsText AssetExtra.toJson AssetExtra.ofJson ∧
    SurvivesAsText Transfer.toJson Transfer.ofJson ∧
    SurvivesAsText AssetTransaction.toJson AssetTransaction.ofJson ∧
    SurvivesAsText Transaction.toJson Transaction.ofJson ∧
    SurvivesAsText Settings.toJson Settings.ofJson ∧
    (∀ scope again : ChainScope,
      readText? ChainScope.ofJson scope.toJson.render = some (.ok again) →
      (again.chainId = none ↔ scope.chainId = none) ∧
      (again.validUntilHeight = none ↔ scope.validUntilHeight = none)) ∧
    (∀ settings again : Settings,
      readText? Settings.ofJson settings.toJson.render = some (.ok again) →
      (again.chainId = none ↔ settings.chainId = none)) ∧
    ∀ transaction again : Transaction,
      readText? Transaction.ofJson transaction.toJson.render = some (.ok again) →
        again.scope = transaction.scope ∧ again.payload = transaction.payload := by
  refine ⟨Address.readsBack.survivesAsText, Signature.readsBack.survivesAsText,
    Density.readsBack.survivesAsText, AssetAction.readsBack.survivesAsText,
    ChainScope.readsBack.survivesAsText, AssetExtra.readsBack.survivesAsText,
    Transfer.readsBack.survivesAsText, AssetTransaction.readsBack.survivesAsText,
    Transaction.readsBack.survivesAsText, Settings.readsBack.survivesAsText, ?_, ?_, ?_⟩
  · intro scope again hread
    rw [ChainScope.readsBack.survivesAsText.eq_of_readText? hread]
    exact ⟨Iff.rfl, Iff.rfl⟩
  · intro settings again hread
    rw [Settings.readsBack.survivesAsText.eq_of_readText? hread]
  · intro transaction again hread
    rw [Transaction.readsBack.survivesAsText.eq_of_readText? hread]
    exact ⟨rfl, rfl⟩

/-- A split that carries the other asset of a merge, on chain zero. -/
def AssetTransaction.mismatched : AssetTransaction :=
  ⟨⟨.replicate 32 1⟩, .split, .replicate 32 2, ⟨.replicate 32 3⟩, .core, .merge (.replicate 32 4),
    5, 18446744073709551615, ⟨some 0, none⟩⟩

/-- Settings with a log format and a filter that need every kind of escape. -/
def Settings.escaped : Settings :=
  { logFormat := "\"\\\n\t\x01", logLevel := "é🦀" }

/-- The mismatched split survives with its bytes and its chain, the settings that need escapes
survive without a chain, and a scope on no chain has another text than one on chain zero. -/
theorem values_survive_as_text_mismatched :
    (∃ again, readText? Transaction.ofJson (Transaction.asset .mismatched).toJson.render =
        some (.ok again) ∧ again.scope.chainId = some 0 ∧
      again.payload = AssetTransaction.mismatched.payload) ∧
    (∃ again, readText? Settings.ofJson Settings.escaped.toJson.render = some (.ok again) ∧
      again.chainId = none ∧ again.logFormat = Settings.escaped.logFormat) ∧
    ChainScope.unscoped.toJson.render ≠ (ChainScope.mk (some 0) none).toJson.render := by
  obtain ⟨-, -, -, -, hscope, -, -, -, htransaction, hsettings, -, hchain, hpayload⟩ :=
    values_survive_as_text
  have hasset := htransaction.readText?_render (.asset .mismatched)
  have hescaped := hsettings.readText?_render .escaped
  obtain ⟨hsame, hbytes⟩ := hpayload _ _ hasset
  refine ⟨⟨_, hasset, congrArg ChainScope.chainId hsame, hbytes⟩,
    ⟨_, hescaped, (hchain _ _ hescaped).mpr rfl, rfl⟩, ?_⟩
  intro htext
  have hzero := hscope.render_injective _ _ htext
  contradiction

end OfflineSigner

import OfflineSigner.ChainScope
import OfflineSigner.LogFormat
import OfflineSigner.Wallet.Error

/-!
# Settings

What a wallet is told once for all transactions: the chain, how long transactions stay valid, the
usual fee, and how log lines are written. Every setting has a default.
-/

namespace OfflineSigner

/-- The settings of a wallet. -/
structure Settings where
  /-- The chain that every transaction is meant for. -/
  chainId : Option UInt64 := none
  /-- The number of blocks after the current height for which a transaction stays valid. -/
  validityWindow : Option UInt64 := none
  /-- The fee of transactions for which none is given. -/
  defaultFee : UInt64 := 0
  logFormat : String := "human"
  /-- The filter of log lines. -/
  logLevel : String := "warn"
deriving DecidableEq

/-- The sum of two 64-bit numbers, or the largest one if the sum does not fit. -/
def saturatingAdd (a b : UInt64) : UInt64 :=
  if a.toNat + b.toNat < 1 <<< 64 then a + b else UInt64.ofNat ((1 <<< 64) - 1)

namespace Settings

/-- The settings when nothing is set. -/
def default : Settings := {}

instance : Inhabited Settings := ⟨default⟩

/-- The scope of a transaction made at a height; it ends only if height and window are known. -/
def scopeAt (settings : Settings) (height : Option UInt64) : ChainScope :=
  let validUntilHeight := match height, settings.validityWindow with
    | some height, some window => some (saturatingAdd height window)
    | _, _ => none
  ⟨settings.chainId, validUntilHeight⟩

/-- The log format that is named. -/
def namedLogFormat (settings : Settings) : Except WalletError LogFormat :=
  match LogFormat.ofName settings.logFormat with
  | .ok format => .ok format
  | .error reason => .error (.config reason)

/-- The JSON value. -/
def toJson (settings : Settings) : Json :=
  .object [
    ("chain_id", .ofOption .ofUInt64 settings.chainId),
    ("validity_window", .ofOption .ofUInt64 settings.validityWindow),
    ("default_fee", .ofUInt64 settings.defaultFee),
    ("log_format", .string settings.logFormat),
    ("log_level", .string settings.logLevel)]

/-- The fields of the JSON value; all may be left out. -/
def reader : RecordReader Settings :=
  mk <$> .withDefault "chain_id" (Json.readOptional Json.readUInt64) default.chainId
    <*> .withDefault "validity_window" (Json.readOptional Json.readUInt64) default.validityWindow
    <*> .withDefault "default_fee" Json.readUInt64 default.defaultFee
    <*> .withDefault "log_format" Json.readString default.logFormat
    <*> .withDefault "log_level" Json.readString default.logLevel

/-- Reads a JSON value. -/
def ofJson (value : Json) : Except DecodeError Settings :=
  reader.ofJson "struct WalletConfig" value

end Settings

end OfflineSigner

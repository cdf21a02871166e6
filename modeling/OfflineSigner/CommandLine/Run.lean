import OfflineSigner.CommandLine.Command
import OfflineSigner.Settings.File
import OfflineSigner.Wallet.Builder
import OfflineSigner.Wallet.Keys

/-!
# Running a command

What a command prints, or why it prints nothing. The settings are loaded before anything else; the
seed comes before the amounts, these before the fee and the counter, and the builder's own checks
come last. Nothing is printed unless all of it has succeeded.
-/

namespace OfflineSigner.CommandLine

/-- Why a command prints nothing. -/
inductive Failure where
  | settings (path : String) (error : SettingsError)
  /-- The seed of a signing command is no seed. -/
  | signerSeed (error : KeyError)
  /-- The seed of which the address is wanted is no seed. -/
  | seed (error : KeyError)
  | wallet (error : WalletError)
deriving DecidableEq

/-- A text of which every line but the first is indented. -/
def indented (text : String) : String :=
  String.ofList (text.toList.flatMap fun c => if c == '\n' then "\n    ".toList else [c])

/-- A message with its cause on a line of its own, which is indented as a whole. -/
def withCause (message cause : String) : String :=
  message ++ "\n\nCaused by:\n    " ++ indented cause

/-- The report of a failure, up to what the reader of a settings file says of it. -/
def Failure.report : Failure → String
  | settings path error => withCause s!"loading {path}" error.message
  | signerSeed error => withCause "invalid signer seed" error.message
  | seed error => withCause "invalid seed" error.message
  | wallet error => error.message

/-- What the reader of a settings file says of it, where the report of a failure ends with that. -/
def Failure.detail (words : String → String) : Failure → String
  | settings _ error => indented (error.detail words)
  | _ => ""

/-- Passes a result of the wallet on. -/
def liftWallet {α : Type} : Except WalletError α → Except Failure α
  | .ok value => .ok value
  | .error error => .error (.wallet error)

namespace SigningOptions

/-- The scope of the transaction: each option given counts before what the settings say. -/
def scope (signing : SigningOptions) (settings : Settings) : ChainScope :=
  let usual := settings.scopeAt signing.height
  ⟨signing.chainId <|> usual.chainId, signing.validUntilHeight <|> usual.validUntilHeight⟩

/-- The fee of the transaction: the option, or else the usual one. -/
def resolveFee (signing : SigningOptions) (settings : Settings) : Except WalletError UInt64 :=
  match signing.fee with
  | some fee => nonNegative "fee" fee
  | none => .ok settings.defaultFee

/-- The key pair of the seed. -/
def keyPair (signing : SigningOptions) : Except Failure KeyPair :=
  (KeyPair.ofSeedHex signing.seed).mapError .signerSeed

/-- The line that is printed. -/
def line (signing : SigningOptions) (signed : SignedText) : String :=
  (if signing.envelope then signed.submissionBody else signed.text) ++ "\n"

end SigningOptions

namespace AssetOptions

/-- The request that the options describe, for an action. -/
def request (asset : AssetOptions) (action : AssetAction) : AssetRequest :=
  { AssetRequest.minimal action asset.assetId asset.density with
    metadata := .ofList asset.metadata
    gameId := asset.gameId }

end AssetOptions

/-- The metadata with an entry more when there is one. -/
def addEntry (metadata : Metadata) (key : String) : Option String → Metadata
  | some value => metadata.insert key value
  | none => metadata

/-- Signs an action on an asset and gives the line to be printed. -/
def signAsset (settings : Settings) (signing : SigningOptions) (request : AssetRequest) :
    Except Failure String := do
  let pair ← signing.keyPair
  let fee ← liftWallet (signing.resolveFee settings)
  let nonce ← liftWallet (nonNegative "nonce" signing.nonce)
  let request := { request with fee, nonce, scope := signing.scope settings }
  let signed ← liftWallet (pair.signer.buildAssetAction request)
  return signing.line signed

/-- What a command prints; a new key pair is made of the next seed of the source. -/
def Command.run {σ : Type} (source : Entropy σ) (state : σ) (settings : Settings) :
    Command → Except Failure String
  | keygen => do
    let pair ← liftWallet (Wallet.newKeyPair source state).1
    return s!"seed:    {pair.seedHex}\naddress: {pair.address.toHex}\n"
  | address seed => do
    let pair ← (KeyPair.ofSeedHex seed).mapError .seed
    return pair.address.toHex ++ "\n"
  | transfer signing recipient amount => do
    let pair ← signing.keyPair
    let amount ← liftWallet (nonNegative "amount" amount)
    let fee ← liftWallet (signing.resolveFee settings)
    let nonce ← liftWallet (nonNegative "nonce" signing.nonce)
    let signed ← liftWallet
      (pair.signer.buildTransfer recipient amount fee nonce (signing.scope settings))
    return signing.line signed
  | createAsset signing asset => signAsset settings signing (asset.request .create)
  | assetAction signing asset action owner otherAsset components =>
    let request := asset.request action
    let metadata := addEntry request.metadata otherAssetKey otherAsset
    let metadata := addEntry metadata componentsKey components
    signAsset settings signing { request with owner, metadata }

/-- The settings of an invocation; `contents` is what reading its settings file gives. -/
def Invocation.settings (invocation : Invocation) (contents : Except ReadFault (List UInt8)) :
    Except Failure Settings :=
  match invocation.config with
  | some path => (Settings.ofFile path contents).mapError (.settings path)
  | none => .ok .default

/-- What an invocation prints. -/
def Invocation.run {σ : Type} (source : Entropy σ) (state : σ) (invocation : Invocation)
    (contents : Except ReadFault (List UInt8)) : Except Failure String := do
  let settings ← invocation.settings contents
  let _ ← liftWallet settings.namedLogFormat
  invocation.command.run source state settings

/-- The name of the program and its version, as they are printed. -/
def versionLine : String := "haze-signer 0.1.0\n"

/-- How a program ends. -/
inductive Outcome where
  | printed (text : String)
  | help
  | refused (fault : ArgumentFault)
  | failed (failure : Failure)
deriving DecidableEq

/-- The exit code of an end. -/
def Outcome.exitCode : Outcome → Nat
  | printed _ => 0
  | help => 0
  | refused _ => 2
  | failed _ => 1

/-- What is printed when help is asked for. -/
def usage : String :=
  "Usage: haze-signer [OPTIONS] <COMMAND>\n\nCommands:\n" ++
    String.join (subcommands.map fun command => "  " ++ command.1 ++ "\n")

/-- What stands on standard output at an end. -/
def Outcome.standardOutput : Outcome → String
  | printed text => text
  | help => usage
  | refused _ => ""
  | failed _ => ""

/-- What is reported on standard error at an end, where `words` gives the words of the reader of
settings files; log lines, which go there too, are left out. -/
def Outcome.errorReport (words : String → String) : Outcome → String
  | printed _ => ""
  | help => ""
  | refused fault => fault.report
  | failed failure => s!"Error: {failure.report}{failure.detail words}\n"

/-- The path of the settings file that a command line names. -/
def settingsPath? (environment : String → Option String) (words : List String) : Option String :=
  match parse environment words with
  | .ok (.run invocation) => invocation.config
  | _ => none

/-- Runs a command line; `contents` gives what reading a file gives. -/
def execute {σ : Type} (source : Entropy σ) (state : σ) (environment : String → Option String)
    (contents : String → Except ReadFault (List UInt8)) (words : List String) : Outcome :=
  match parse environment words with
  | .error fault => .refused fault
  | .ok .help => .help
  | .ok .version => .printed versionLine
  | .ok (.run invocation) =>
    match invocation.run source state (contents (invocation.config.getD "")) with
    | .ok text => .printed text
    | .error failure => .failed failure

end OfflineSigner.CommandLine

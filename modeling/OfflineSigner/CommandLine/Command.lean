import OfflineSigner.Asset.Action
import OfflineSigner.Asset.Density
import OfflineSigner.CommandLine.Arguments

/-!
# The commands of the signer

The subcommands with their options, and the reading of a whole command line. Two options stand
before the subcommand and hold for all of them.
-/

namespace OfflineSigner.CommandLine

/-- The options of every command that signs. The settings decide what the fee, the chain and the last
height are when these are not given; their window begins at the height. With an envelope, what is
printed is the body that submits the text. -/
structure SigningOptions where
  seed : String
  fee : Option Int64
  nonce : Int64
  chainId : Option UInt64
  height : Option UInt64
  validUntilHeight : Option UInt64
  envelope : Bool
deriving DecidableEq

/-- The options of every command about an asset. -/
structure AssetOptions where
  assetId : String
  density : Density
  /-- Metadata entries in the order in which they were given. -/
  metadata : List (String × String)
  gameId : String
deriving DecidableEq

/-- What the signer is asked to do. -/
inductive Command where
  | keygen
  | address (seed : String)
  | transfer (signing : SigningOptions) (recipient : String) (amount : Int64)
  /-- Sign the creation of an asset that the signer owns. -/
  | createAsset (signing : SigningOptions) (asset : AssetOptions)
  | assetAction (signing : SigningOptions) (asset : AssetOptions) (action : AssetAction)
      (owner otherAsset components : Option String)
deriving DecidableEq

/-- A command and the options that stand before it: the path of the settings file, and the filter of
log lines in place of the one in the settings. -/
structure Invocation where
  config : Option String
  logLevel : Option String
  command : Command
deriving DecidableEq

/-- What a command line asks for. -/
inductive Request (α : Type) where
  | run (work : α)
  | help
  | version
deriving DecidableEq

/-- The seed option. -/
def seedOption : OptionReader String :=
  (OptionReader.required "seed" readText).orVariable "HAZE_SEED"

/-- The options of every command that signs. -/
def signingOptions : OptionReader SigningOptions :=
  SigningOptions.mk <$> seedOption
    <*> (OptionReader.optional "fee" readInt64).allowingNegative
    <*> (OptionReader.required "nonce" readInt64).allowingNegative
    <*> .optional "chain-id" readUInt64
    <*> .optional "height" readUInt64
    <*> .optional "valid-until-height" readUInt64
    <*> .flag "envelope"

/-- The options of every command about an asset. -/
def assetOptions : OptionReader AssetOptions :=
  AssetOptions.mk <$> .required "asset-id" readText
    <*> .withDefault "density" (readName Density.ofName) .ethereal
    <*> .many "meta" readPair
    <*> .withDefault "game-id" readText ""

/-- The subcommands with their options. -/
def subcommands : List (String × OptionReader Command) := [
  ("keygen", pure .keygen),
  ("address", Command.address <$> seedOption),
  ("transfer", Command.transfer <$> signingOptions
    <*> .required "to" readText
    <*> (OptionReader.required "amount" readInt64).allowingNegative),
  ("create-asset", Command.createAsset <$> signingOptions <*> assetOptions),
  ("asset-action", Command.assetAction <$> signingOptions <*> assetOptions
    <*> .required "action" (readName AssetAction.ofName)
    <*> .optional "owner" readText
    <*> .optional "other-asset-id" readText
    <*> .optional "components" readText)]

/-- The options before the subcommand. -/
def leadingOptions : OptionReader (Command → Invocation) :=
  Invocation.mk <$> (OptionReader.optional "config" readPath).orVariable "HAZE_CONFIG"
    <*> (OptionReader.optional "log-level" readText).orVariable "HAZE_LOG_LEVEL"

/-- The words of the first level; one of its subcommands only gives help. -/
def firstLevel : Level :=
  ⟨leadingOptions.shapes, subcommands.map (·.1) ++ ["help"], true⟩

/-- Reads the words of a subcommand. -/
def parseSubcommand (environment : String → Option String) (reader : OptionReader Command)
    (words : List String) : Except ArgumentFault (Request Command) := do
  match ← Level.scan ⟨reader.shapes, [], false⟩ false .idle [] words with
  | .finished given =>
    let given ← addVariables environment reader.shapes given
    return .run (← reader.build given)
  | .subcommand name _ _ _ => throw (.unknownArgument name)
  | .help => return .help
  | .version => return .version

/-- Finds out whether help is asked for on something that exists. -/
def parseHelp : List String → Except ArgumentFault (Request Invocation)
  | [] => .ok .help
  | word :: rest =>
    if firstLevel.subcommands.contains word then
      match rest with
      | [] => .ok .help
      | other :: _ => .error (.invalidSubcommand other)
    else .error (.invalidSubcommand word)

/-- Reads a whole command line; `environment` gives the values of environment variables. -/
def parse (environment : String → Option String) (words : List String) :
    Except ArgumentFault (Request Invocation) := do
  match ← firstLevel.scan false .idle [] words with
  | .subcommand name rest pending given =>
    match subcommands.lookup name with
    | none => parseHelp rest
    | some reader =>
      match ← parseSubcommand environment reader rest with
      | .run command =>
        let given ← pending.settle given
        let given ← addVariables environment leadingOptions.shapes given
        return .run ((← leadingOptions.build given) command)
      | .help => return .help
      | .version => return .version
  | .finished given =>
    let _ ← addVariables environment leadingOptions.shapes given
    throw .missingSubcommand
  | .help => return .help
  | .version => return .version

end OfflineSigner.CommandLine

import OfflineSigner.Address
import OfflineSigner.Asset.Action
import OfflineSigner.Asset.Density
import OfflineSigner.Asset.Extra
import OfflineSigner.Bytes.Fixed
import OfflineSigner.Bytes.LittleEndian
import OfflineSigner.Bytes.Utf8
import OfflineSigner.ChainScope
import OfflineSigner.CommandLine.Arguments
import OfflineSigner.CommandLine.Command
import OfflineSigner.CommandLine.Run
import OfflineSigner.Crypto.Ed25519
import OfflineSigner.Crypto.Edwards
import OfflineSigner.Crypto.Field
import OfflineSigner.Crypto.Power
import OfflineSigner.Crypto.Sha512
import OfflineSigner.Data.Dictionary
import OfflineSigner.Json.Decoding
import OfflineSigner.Json.Printer
import OfflineSigner.Json.Reader
import OfflineSigner.Json.Value
import OfflineSigner.Key.Entropy
import OfflineSigner.Key.Error
import OfflineSigner.Key.Pair
import OfflineSigner.Key.Signer
import OfflineSigner.LogFormat
import OfflineSigner.Main
import OfflineSigner.Number.Binary64
import OfflineSigner.Settings.Basic
import OfflineSigner.Settings.File
import OfflineSigner.Settings.FileTree
import OfflineSigner.Signature
import OfflineSigner.Text.Blank
import OfflineSigner.Text.ControlSequence
import OfflineSigner.Text.Decimal
import OfflineSigner.Text.Hex
import OfflineSigner.Text.Name
import OfflineSigner.Text.Quoted
import OfflineSigner.Text.Unprintable
import OfflineSigner.Toml.Document
import OfflineSigner.Toml.Scalar
import OfflineSigner.Toml.Table
import OfflineSigner.Toml.Text
import OfflineSigner.Toml.Value
import OfflineSigner.Transaction.Basic
import OfflineSigner.Transaction.Error
import OfflineSigner.Transaction.Format
import OfflineSigner.Transaction.Payload
import OfflineSigner.Transaction.Verification
import OfflineSigner.ValueError
import OfflineSigner.Wallet.Builder
import OfflineSigner.Wallet.Error
import OfflineSigner.Wallet.Keys
import OfflineSigner.Wallet.Wire
import OfflineSigner.Proofs.Asset.Vocabulary
import OfflineSigner.Proofs.Bytes.Positions
import OfflineSigner.Proofs.Bytes.Words
import OfflineSigner.Proofs.CommandLine.AssetNames
import OfflineSigner.Proofs.CommandLine.Creation
import OfflineSigner.Proofs.CommandLine.Metadata
import OfflineSigner.Proofs.CommandLine.MetadataEntries
import OfflineSigner.Proofs.CommandLine.Options
import OfflineSigner.Proofs.CommandLine.RepeatedOption
import OfflineSigner.Proofs.CommandLine.Scope
import OfflineSigner.Proofs.CommandLine.Signing
import OfflineSigner.Proofs.Crypto.CurvePoint
import OfflineSigner.Proofs.Crypto.Ed25519
import OfflineSigner.Proofs.Crypto.EdwardsCurve
import OfflineSigner.Proofs.Crypto.Field
import OfflineSigner.Proofs.Crypto.GroupOrder
import OfflineSigner.Proofs.Crypto.Power
import OfflineSigner.Proofs.Crypto.Primes
import OfflineSigner.Proofs.Crypto.ZeroSignature
import OfflineSigner.Proofs.Data.Dictionary
import OfflineSigner.Proofs.Data.Except
import OfflineSigner.Proofs.Data.Search
import OfflineSigner.Proofs.Json.Integer
import OfflineSigner.Proofs.Json.Line
import OfflineSigner.Proofs.Json.ReadBack
import OfflineSigner.Proofs.Json.RoundTrip
import OfflineSigner.Proofs.Json.Text
import OfflineSigner.Proofs.Json.TypedValue
import OfflineSigner.Proofs.Key.Backup
import OfflineSigner.Proofs.Key.SeedCycle
import OfflineSigner.Proofs.Key.SeedText
import OfflineSigner.Proofs.Text.Decimal
import OfflineSigner.Proofs.Text.Hex
import OfflineSigner.Proofs.Text.HexReading
import OfflineSigner.Proofs.Text.Name
import OfflineSigner.Proofs.Text.Spacing
import OfflineSigner.Proofs.Text.Utf8Order
import OfflineSigner.Proofs.Transaction.Collision
import OfflineSigner.Proofs.Transaction.Layout
import OfflineSigner.Proofs.Transaction.OwnSignature
import OfflineSigner.Proofs.Transaction.Payload
import OfflineSigner.Proofs.Transaction.UniversalSignature
import OfflineSigner.Proofs.Transaction.Verdict
import OfflineSigner.Proofs.Wallet.AssetReading
import OfflineSigner.Proofs.Wallet.AssetText
import OfflineSigner.Proofs.Wallet.Auxiliary
import OfflineSigner.Proofs.Wallet.Builder
import OfflineSigner.Proofs.Wallet.Failure
import OfflineSigner.Proofs.Wallet.Respelling
import OfflineSigner.Proofs.Wallet.TransferReading
import OfflineSigner.Proofs.Wallet.Unsigned
import OfflineSigner.Proofs.Transaction.Format
import OfflineSigner.Proofs.Wallet.BrokenSigner

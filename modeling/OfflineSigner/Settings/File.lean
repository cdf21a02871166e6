import OfflineSigner.Settings.Basic
import OfflineSigner.Toml.Document

/-!
# Settings files

Settings are read from a TOML document. Keys that name no setting are ignored; a setting of the
wrong type, or a number below zero, refuses the file. The error then carries the document, and what
its reader says of it stands behind the wording of the error; the words of that reader are not
modelled, so they are a parameter wherever they are shown.
-/

namespace OfflineSigner

/-- Why the contents of a file cannot be had. -/
inductive ReadFault where
  | notFound
  | isDirectory
  | notDirectory
  | permissionDenied
  | nameTooLong
  /-- The contents are not UTF-8. -/
  | notText
  /-- Anything else, in the words of the system. -/
  | other (reason : String)
deriving DecidableEq

/-- The wording of a fault. -/
def ReadFault.message : ReadFault → String
  | .notFound => "No such file or directory (os error 2)"
  | .isDirectory => "Is a directory (os error 21)"
  | .notDirectory => "Not a directory (os error 20)"
  | .permissionDenied => "Permission denied (os error 13)"
  | .nameTooLong => "File name too long (os error 36)"
  | .notText => "stream did not contain valid UTF-8"
  | .other reason => reason

/-- Why there are no settings. -/
inductive SettingsError where
  | unreadable (path : String) (fault : ReadFault)
  /-- The contents are no settings. -/
  | malformed (document : String)
deriving DecidableEq

/-- The wording of an error, up to what the reader of a document says of it. -/
def SettingsError.message : SettingsError → String
  | .unreadable path fault =>
    (WalletError.config s!"failed to read {path}: {fault.message}").message
  | .malformed _ => "config error"

/-- What the reader of a document says of it, where `words` gives its words for each document that
it refuses. -/
def SettingsError.detail (words : String → String) : SettingsError → String
  | .unreadable .. => ""
  | .malformed document => ": " ++ words document

namespace Settings

/-- Reads a number that is not below zero. -/
def tomlUInt64? : Toml.Value → Option UInt64
  | .integer n => if 0 ≤ n then some (UInt64.ofNat n.toNat) else none
  | _ => none

/-- Reads a text. -/
def tomlString? : Toml.Value → Option String
  | .string text => some text
  | _ => none

/-- The value of a key, or a default if the key is not there; none when the value does not fit. -/
def tomlField? {α : Type} (entries : List (String × Toml.Value)) (key : String)
    (read : Toml.Value → Option α) (default : α) : Option α :=
  match entries.lookup key with
  | some value => read value
  | none => some default

/-- The settings of a TOML document; none when it is refused. -/
def ofToml? (text : String) : Option Settings := do
  let entries ← Toml.parse? text
  let chainId ← tomlField? entries "chain_id" (fun v => (tomlUInt64? v).map some) default.chainId
  let validityWindow ← tomlField? entries "validity_window" (fun v => (tomlUInt64? v).map some)
    default.validityWindow
  let defaultFee ← tomlField? entries "default_fee" tomlUInt64? default.defaultFee
  let logFormat ← tomlField? entries "log_format" tomlString? default.logFormat
  let logLevel ← tomlField? entries "log_level" tomlString? default.logLevel
  some { chainId, validityWindow, defaultFee, logFormat, logLevel }

/-- The settings of a file whose contents, or the reason why there are none, are given. -/
def ofFile (path : String) (contents : Except ReadFault (List UInt8)) :
    Except SettingsError Settings :=
  match contents with
  | .error fault => .error (.unreadable path fault)
  | .ok bytes =>
    match ofUtf8? bytes with
    | none => .error (.unreadable path .notText)
    | some text =>
      match ofToml? text with
      | some settings => .ok settings
      | none => .error (.malformed text)

end Settings

end OfflineSigner

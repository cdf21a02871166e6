import OfflineSigner.Bytes.Fixed
import OfflineSigner.Text.Hex

/-!
# Errors of single values

Why a text, a byte list or a code is no address, signature, asset id, density or action, and the
reading of hexadecimal text as bytes of a known number.
-/

namespace OfflineSigner

/-- Why a single value is refused. -/
inductive ValueError where
  | invalidHex (reason : String)
  /-- The number of bytes is wrong for the named kind of value. -/
  | invalidLength (field : String) (expected actual : Nat)
  | unknownDensity (code : UInt8)
  | unknownAction (code : UInt8)
  /-- The text names nothing of the wanted kind. -/
  | invalidName (text : String)
deriving DecidableEq

/-- The wording of an error. -/
def ValueError.message : ValueError → String
  | .invalidHex reason => s!"invalid hex: {reason}"
  | .invalidLength field expected actual =>
    s!"invalid {field}: expected {expected} bytes, got {actual}"
  | .unknownDensity code => s!"unknown density code: {code.toNat}"
  | .unknownAction code => s!"unknown asset action code: {code.toNat}"
  | .invalidName text => s!"unrecognised name: {text}"

/-- The bytes of a hexadecimal text. -/
def bytesOfHex (text : String) : Except ValueError (List UInt8) :=
  match Hex.decode text with
  | .ok bytes => .ok bytes
  | .error fault => .error (.invalidHex fault.message)

namespace FixedBytes

variable {n : Nat}

/-- A byte list as `n` bytes; `field` names what they stand for. -/
def ofBytes (field : String) (bytes : List UInt8) : Except ValueError (FixedBytes n) :=
  match ofList? bytes with
  | some value => .ok value
  | none => .error (.invalidLength field n bytes.length)

/-- The `n` bytes of a hexadecimal text. -/
def ofHex (field text : String) : Except ValueError (FixedBytes n) := do
  ofBytes field (← bytesOfHex text)

/-- The canonical hexadecimal text. -/
def toHex (value : FixedBytes n) : String :=
  Hex.encode value.toList

/-- The first four bytes in hexadecimal, followed by two points. -/
def abbreviated (value : FixedBytes n) : String :=
  Hex.encode (value.toList.take 4) ++ ".."

end FixedBytes

end OfflineSigner

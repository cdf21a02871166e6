import OfflineSigner.Json.Decoding

/-!
# Signatures

A signature is 64 bytes, written as 128 lower-case hexadecimal digits. Whether it is a signature of
anything is not part of the type.
-/

namespace OfflineSigner

/-- A value of the size of a signature. -/
structure Signature where
  bytes : FixedBytes 64
deriving DecidableEq

namespace Signature

/-- The canonical text. -/
def toHex (signature : Signature) : String :=
  signature.bytes.toHex

/-- Reads the text in any accepted spelling. -/
def ofHex (text : String) : Except ValueError Signature :=
  (FixedBytes.ofHex "signature" text).map mk

/-- Takes a list of 64 bytes. -/
def ofBytes (bytes : List UInt8) : Except ValueError Signature :=
  (FixedBytes.ofBytes "signature" bytes).map mk

/-- The short form for reports. -/
def brief (signature : Signature) : String :=
  s!"Signature({signature.bytes.abbreviated})"

/-- The JSON value. -/
def toJson (signature : Signature) : Json :=
  .string signature.toHex

/-- Reads a JSON value. -/
def ofJson : Json → Except DecodeError Signature
  | .string text => Json.refuse (ofHex text)
  | other => .error (.wrongType other "128 hex characters")

end Signature

end OfflineSigner

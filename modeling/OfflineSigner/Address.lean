import OfflineSigner.Json.Decoding

/-!
# Addresses

An address is the public key of an account: 32 bytes, written as 64 lower-case hexadecimal digits.
-/

namespace OfflineSigner

/-- The public key of an account. -/
structure Address where
  bytes : FixedBytes 32
deriving DecidableEq

namespace Address

/-- The canonical text. -/
def toHex (address : Address) : String :=
  address.bytes.toHex

/-- Reads the text in any accepted spelling. -/
def ofHex (text : String) : Except ValueError Address :=
  (FixedBytes.ofHex "address" text).map mk

/-- Takes a list of 32 bytes. -/
def ofBytes (bytes : List UInt8) : Except ValueError Address :=
  (FixedBytes.ofBytes "address" bytes).map mk

/-- The short form for reports. -/
def brief (address : Address) : String :=
  s!"Address({address.bytes.abbreviated})"

/-- The JSON value. -/
def toJson (address : Address) : Json :=
  .string address.toHex

/-- Reads a JSON value. -/
def ofJson (value : Json) : Except DecodeError Address := do
  Json.refuse (ofHex (← value.readString))

/-- Puts an address into a list that is in increasing order of the bytes, unless it is in it. -/
def insertInOrder (address : Address) : List Address → List Address
  | [] => [address]
  | first :: rest =>
    if address.bytes.toList < first.bytes.toList then address :: first :: rest
    else if address = first then first :: rest
    else first :: insertInOrder address rest

/-- The different addresses of a list in increasing order of their bytes. -/
def sortDistinct (addresses : List Address) : List Address :=
  addresses.foldr insertInOrder []

end Address

end OfflineSigner

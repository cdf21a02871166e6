import OfflineSigner.Json.Decoding
import OfflineSigner.Text.Name

/-!
# Density levels

How much data an asset carries. The code of a level is a byte of the signed message and its name is
the word of the wire format, so neither may ever change. JSON values have words of their own, which
are the same.
-/

namespace OfflineSigner

/-- The amount of data that an asset carries. -/
inductive Density where
  /-- Basic metadata. -/
  | ethereal
  /-- Main attributes and textures. -/
  | light
  /-- The full set and a model in three dimensions. -/
  | dense
  /-- All data with its history. -/
  | core
deriving DecidableEq

namespace Density

/-- The levels from the smallest to the largest. -/
def all : List Density := [ethereal, light, dense, core]

/-- The byte that is signed. -/
def code : Density → UInt8
  | ethereal => 0
  | light => 1
  | dense => 2
  | core => 3

/-- The level of a code. -/
def ofCode (code : UInt8) : Except ValueError Density :=
  match all.find? fun level => level.code == code with
  | some level => .ok level
  | none => .error (.unknownDensity code)

/-- The word of the wire format. -/
def name : Density → String
  | ethereal => "Ethereal"
  | light => "Light"
  | dense => "Dense"
  | core => "Core"

/-- Reads a name typed by a user. -/
def ofName (text : String) : Except ValueError Density :=
  Text.findNamed all name text

/-- The number of bytes of data allowed at a level. -/
def maxSize : Density → Nat
  | ethereal => 5 * 1024
  | light => 50 * 1024
  | dense => 5 * 1024 * 1024
  | core => 50 * 1024 * 1024

/-- The next larger level. -/
def condensed? : Density → Option Density
  | ethereal => some light
  | light => some dense
  | dense => some core
  | core => none

/-- The next smaller level. -/
def evaporated? : Density → Option Density
  | ethereal => none
  | light => some ethereal
  | dense => some light
  | core => some dense

/-- The word of the JSON value. -/
def variant : Density → String
  | ethereal => "Ethereal"
  | light => "Light"
  | dense => "Dense"
  | core => "Core"

/-- The JSON value. -/
def toJson (level : Density) : Json :=
  .string level.variant

/-- Reads a JSON value. -/
def ofJson (value : Json) : Except DecodeError Density :=
  value.readNamed (all.map fun level => (level.variant, level))

end Density

end OfflineSigner

import OfflineSigner.Number.Binary64

/-!
# TOML values

The values that a key of a TOML document can have. Floats, dates and times keep their spelling.
-/

namespace OfflineSigner.Toml

/-- A TOML value. -/
inductive Value where
  | string (value : String)
  /-- An integer between -2^63 and 2^63 - 1. -/
  | integer (value : Int)
  /-- A floating-point number as it is spelt. -/
  | float (spelling : String)
  | boolean (value : Bool)
  /-- A date, a time or both as they are spelt. -/
  | dateTime (spelling : String)
  | array (items : List Value)
  | table (entries : List (String × Value))

end OfflineSigner.Toml

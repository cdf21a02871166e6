import OfflineSigner.Data.Dictionary
import OfflineSigner.Number.Binary64

/-!
# JSON values

An integer between -2^63 and 2^64 - 1 is held exactly; every other number is a double. The members
of an object keep the order in which they were written. `canonical` puts them into the order of
their names and keeps the last of several members of one name.
-/

namespace OfflineSigner

/-- A JSON value. -/
inductive Json where
  | null
  | boolean (value : Bool)
  /-- An integer between -2^63 and 2^64 - 1. -/
  | integer (value : Int)
  /-- Any other number. -/
  | double (value : Binary64)
  | string (value : String)
  | array (items : List Json)
  /-- Named values in the order of their writing. -/
  | object (members : List (String × Json))

namespace Json

instance : Inhabited Json := ⟨null⟩

/-- The value of a 64-bit number. -/
def ofUInt64 (value : UInt64) : Json :=
  .integer value.toNat

/-- The value of something that may be absent. -/
def ofOption {α : Type} (write : α → Json) : Option α → Json
  | some value => write value
  | none => .null

/-- A list of bytes as a list of numbers. -/
def ofBytes (bytes : List UInt8) : Json :=
  .array (bytes.map fun byte => .integer byte.toNat)

/-- The members of a dictionary in the order of their keys. -/
def ofDictionary {α : Type} (write : α → Json) (dictionary : Dictionary α) : Json :=
  .object (dictionary.toList.map fun entry => (entry.1, write entry.2))

/-- An object with a single member. -/
def tagged (name : String) (value : Json) : Json :=
  .object [(name, value)]

/-- The value of a member; absent members of objects and members of other values have none. -/
def member? (name : String) : Json → Option Json
  | .object members => members.lookup name
  | _ => none

/-- The object with one member more, in place of one with the same name. -/
def setMember (json : Json) (name : String) (value : Json) : Json :=
  match json with
  | .object members => .object ((Dictionary.ofList members).insert name value).toList
  | other => other

mutual

/-- The value with all members in the order of their names and without repeated names. -/
def canonical : Json → Json
  | .array items => .array (canonicalItems items)
  | .object members => .object (Dictionary.ofList (canonicalMembers members)).toList
  | other => other

/-- The same for each item of a list. -/
def canonicalItems : List Json → List Json
  | [] => []
  | item :: rest => canonical item :: canonicalItems rest

/-- The same for the value of each member. -/
def canonicalMembers : List (String × Json) → List (String × Json)
  | [] => []
  | (name, value) :: rest => (name, canonical value) :: canonicalMembers rest

end

end Json

end OfflineSigner

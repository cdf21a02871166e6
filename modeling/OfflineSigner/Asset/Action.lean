import OfflineSigner.Json.Decoding
import OfflineSigner.Text.Name

/-!
# Asset actions

What a signed message does to an asset. The code of an action is a byte of the signed message and
its name is the word of the wire format, so neither may ever change. JSON values have words of their
own, which are the same.
-/

namespace OfflineSigner

/-- A step in the life of an asset. -/
inductive AssetAction where
  | create
  | update
  /-- Move to the next larger density. -/
  | condense
  /-- Move to the next smaller density. -/
  | evaporate
  | merge
  | split
deriving DecidableEq

namespace AssetAction

/-- All actions in the order of their codes. -/
def all : List AssetAction := [create, update, condense, evaporate, merge, split]

/-- The byte that is signed. -/
def code : AssetAction → UInt8
  | create => 0
  | update => 1
  | condense => 2
  | evaporate => 3
  | merge => 4
  | split => 5

/-- The action of a code. -/
def ofCode (code : UInt8) : Except ValueError AssetAction :=
  match all.find? fun action => action.code == code with
  | some action => .ok action
  | none => .error (.unknownAction code)

/-- The word of the wire format. -/
def name : AssetAction → String
  | create => "Create"
  | update => "Update"
  | condense => "Condense"
  | evaporate => "Evaporate"
  | merge => "Merge"
  | split => "Split"

/-- Reads a name typed by a user. -/
def ofName (text : String) : Except ValueError AssetAction :=
  Text.findNamed all name text

/-- The word of the JSON value. -/
def variant : AssetAction → String
  | create => "Create"
  | update => "Update"
  | condense => "Condense"
  | evaporate => "Evaporate"
  | merge => "Merge"
  | split => "Split"

/-- The JSON value. -/
def toJson (action : AssetAction) : Json :=
  .string action.variant

/-- Reads a JSON value. -/
def ofJson (value : Json) : Except DecodeError AssetAction :=
  value.readNamed (all.map fun action => (action.variant, action))

end AssetAction

end OfflineSigner

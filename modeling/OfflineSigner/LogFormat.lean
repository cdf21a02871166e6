import OfflineSigner.Text.Blank

/-!
# Log formats

The two ways in which log lines can be written, and the names under which a user chooses one.
-/

namespace OfflineSigner

/-- How log lines are written. -/
inductive LogFormat where
  /-- Lines to be read by people. -/
  | human
  /-- One JSON object a line. -/
  | json
deriving DecidableEq

namespace LogFormat

instance : Inhabited LogFormat := ⟨human⟩

/-- The name of a format. -/
def name : LogFormat → String
  | human => "Human"
  | json => "Json"

/-- Reads a name without regard to case and white space at its ends; the error is a message. -/
def ofName (text : String) : Except String LogFormat :=
  let word := Text.toLowerAscii (Text.trim text)
  if word == "human" || word == "text" then .ok human
  else if word == "json" then .ok json
  else .error s!"unknown log format: {word}"

end LogFormat

end OfflineSigner

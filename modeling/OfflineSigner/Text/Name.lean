import OfflineSigner.ValueError

/-!
# Names typed by a user

A typed name stands for the first value of a list whose own name is the same text up to white space
at the ends and the case of the letters from A to Z.
-/

namespace OfflineSigner.Text

/-- Whether two texts differ in the case of the letters from A to Z at most. -/
def sameUpToCase (a b : String) : Bool :=
  toLowerAscii a == toLowerAscii b

/-- The value that a typed name stands for. -/
def findNamed {α : Type} (values : List α) (name : α → String) (text : String) :
    Except ValueError α :=
  match values.find? fun value => sameUpToCase (name value) (trim text) with
  | some value => .ok value
  | none => .error (.invalidName text)

end OfflineSigner.Text

import OfflineSigner.Toml.Scalar
import OfflineSigner.Toml.Table

/-!
# Reading TOML documents

A document is a sequence of lines: blank ones, comments, headers, and keys with a value. Arrays may
run over several lines and end with a comma; tables in braces may not do either. A document that
breaks a rule anywhere is refused as a whole.
-/

namespace OfflineSigner.Toml

mutual

/-- Reads a value; `depth` counts the arrays and tables around it. -/
def readValue : Nat → Nat → List Char → Option (Value × List Char)
  | 0, _, _ => none
  | fuel + 1, depth, cs =>
    match cs with
    | '"' :: _ | '\'' :: _ => (readText cs).map fun (text, rest) => (.string text, rest)
    | '[' :: rest =>
      if depth + 1 < nestingLimit then
        (readItems fuel (depth + 1) rest).map fun (items, rest) => (.array items, rest)
      else none
    | '{' :: rest =>
      if depth + 1 < nestingLimit then
        match skipSpace rest with
        | '}' :: rest => some (.table [], rest)
        | _ => (readEntries fuel (depth + 1) .root rest).map fun (table, rest) =>
          (table.toValue, rest)
      else none
    | 't' :: 'r' :: 'u' :: 'e' :: rest => some (.boolean true, rest)
    | 'f' :: 'a' :: 'l' :: 's' :: 'e' :: rest => some (.boolean false, rest)
    | _ => readNumber cs

/-- Reads the items of an array and the closing bracket. -/
def readItems : Nat → Nat → List Char → Option (List Value × List Char)
  | 0, _, _ => none
  | fuel + 1, depth, cs => do
    match ← skipLines (cs.length + 1) cs with
    | ']' :: rest => some ([], rest)
    | rest => do
      let (item, rest) ← readValue fuel depth rest
      match ← skipLines (rest.length + 1) rest with
      | ',' :: rest => do
        let (items, rest) ← readItems fuel depth rest
        some (item :: items, rest)
      | ']' :: rest => some ([item], rest)
      | _ => none

/-- Reads the entries of a table in braces and the closing brace. -/
def readEntries : Nat → Nat → Table → List Char → Option (Table × List Char)
  | 0, _, _, _ => none
  | fuel + 1, depth, table, cs => do
    let ((path, key), rest) ← readKey cs
    match rest with
    | '=' :: rest => do
      let (value, rest) ← readValue fuel depth (skipSpace rest)
      let table ← table.define path key value
      match skipSpace rest with
      | ',' :: rest => readEntries fuel depth table rest
      | '}' :: rest => some (table, rest)
      | _ => none
    | _ => none

end

/-- Reads a key and its value, up to the end of the line. -/
def readAssignment (place : Place) (cs : List Char) : Option (Place × List Char) := do
  let ((path, key), rest) ← readKey cs
  match rest with
  | '=' :: rest => do
    let (value, rest) ← readValue (2 * rest.length + 2) 0 (skipSpace rest)
    let rest ← readLineEnd rest
    let place ← place.define path key value
    some (place, rest)
  | _ => none

/-- Reads a header, up to the end of the line. -/
def readHeader (place : Place) (cs : List Char) : Option (Place × List Char) :=
  match cs with
  | '[' :: rest => do
    let ((path, key), rest) ← readKey rest
    match rest with
    | ']' :: ']' :: rest => do
      let rest ← readLineEnd rest
      some (← place.enter path key true, rest)
    | _ => none
  | _ => do
    let ((path, key), rest) ← readKey cs
    match rest with
    | ']' :: rest => do
      let rest ← readLineEnd rest
      some (← place.enter path key false, rest)
    | _ => none

/-- Reads the lines of a document. -/
def readLines : Nat → Place → List Char → Option Place
  | 0, place, cs => if (skipSpace cs).isEmpty then some place else none
  | fuel + 1, place, cs =>
    match skipSpace cs with
    | [] => some place
    | '#' :: rest => do readLines fuel place (← readLineEnd ('#' :: rest))
    | '[' :: rest => do
      let (place, rest) ← readHeader place rest
      readLines fuel place rest
    | '\n' :: rest => readLines fuel place rest
    | '\r' :: '\n' :: rest => readLines fuel place rest
    | rest => do
      let (place, rest) ← readAssignment place rest
      readLines fuel place rest

/-- The entries of a document; none when it breaks a rule. One byte-order mark may stand first. -/
def parse? (text : String) : Option (List (String × Value)) := do
  let cs := match text.toList with
    | '\ufeff' :: rest => rest
    | cs => cs
  let place ← readLines (cs.length + 1) .start cs
  let table ← place.close
  some (Table.entryValues table.entries)

end OfflineSigner.Toml

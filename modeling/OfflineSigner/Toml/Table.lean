import OfflineSigner.Toml.Value

/-!
# Tables under construction

A document is a table that grows line by line. A table is made by a header, by the dots of a key,
or only because a header or a key goes through it; how it was made decides what may still be added.
A key may be given once. Keys with dots go through tables that no header has opened, and end in one
that such keys have made. A header opens a table that is new or was only gone through; a header in
double brackets adds a table to a list of tables, and a path through such a list goes through its
last table.
-/

namespace OfflineSigner.Toml

mutual

/-- What stands under a key. -/
inductive Node where
  /-- A value, which nothing can be added to. -/
  | value (value : Value)
  | table (table : Table)
  | tables (tables : List Table)

/-- A table and how it was made. -/
inductive Table where
  /-- `implicit` unless a header opened it, `dotted` if the dots of a key made it. -/
  | mk (implicit : Bool) (dotted : Bool) (entries : List (String × Node))

end

namespace Table

/-- Whether no header opened the table. -/
def isImplicit : Table → Bool
  | mk implicit _ _ => implicit

/-- Whether the dots of a key made the table. -/
def isDotted : Table → Bool
  | mk _ dotted _ => dotted

/-- The keys with what stands under them. -/
def entries : Table → List (String × Node)
  | mk _ _ entries => entries

/-- The table of a whole document. -/
def root : Table := mk false false []

/-- What stands under a key. -/
def find? (table : Table) (key : String) : Option Node :=
  table.entries.lookup key

/-- The table with something else under a key. -/
def put (table : Table) (key : String) (node : Node) : Table :=
  mk table.isImplicit table.isDotted
    ((key, node) :: table.entries.filter fun entry => entry.1 != key)

/-- The table without a key. -/
def erase (table : Table) (key : String) : Table :=
  mk table.isImplicit table.isDotted (table.entries.filter fun entry => entry.1 != key)

/-- The table with a value under a key that is not in use. -/
def putNew (table : Table) (key : String) (value : Value) : Option Table :=
  match table.find? key with
  | none => some (table.put key (.value value))
  | some _ => none

/-- Gives a value to a key at the end of a path of dotted keys. -/
def defineAt : Table → List String → String → Value → Option Table
  | table, [], key, value => if table.isDotted then table.putNew key value else none
  | table, first :: path, key, value =>
    match table.find? first with
    | none => do
      let inner ← defineAt (mk true true []) path key value
      some (table.put first (.table inner))
    | some (.table inner) =>
      if inner.isImplicit then do
        let inner ← defineAt inner path key value
        some (table.put first (.table inner))
      else none
    | some (.tables tables) =>
      match tables.getLast? with
      | some last => do
        let last ← defineAt last path key value
        some (table.put first (.tables (tables.dropLast ++ [last])))
      | none => none
    | some (.value _) => none

/-- Gives a value to a key of a table that a line stands in. -/
def define (table : Table) (path : List String) (key : String) (value : Value) : Option Table :=
  if path.isEmpty then table.putNew key value else table.defineAt path key value

/-- Changes the table at the end of a path of headers, and passes on what the change gives. -/
def visit {α : Type} : Table → List String → (Table → Option (α × Table)) → Option (α × Table)
  | table, [], change => change table
  | table, first :: path, change =>
    match table.find? first with
    | none => do
      let (result, inner) ← visit (mk true false []) path change
      some (result, table.put first (.table inner))
    | some (.table inner) => do
      let (result, inner) ← visit inner path change
      some (result, table.put first (.table inner))
    | some (.tables tables) =>
      match tables.getLast? with
      | some last => do
        let (result, last) ← visit last path change
        some (result, table.put first (.tables (tables.dropLast ++ [last])))
      | none => none
    | some (.value _) => none

/-- Takes the table that a header opens out of the table around it. -/
def openHeader (key : String) (around : Table) : Option (Table × Table) :=
  match around.find? key with
  | none => some (root, around)
  | some (.table inner) =>
    if inner.isImplicit && !inner.isDotted then
      some (mk false false inner.entries, around.erase key)
    else none
  | some _ => none

/-- Puts the table of a header back into the table around it. -/
def closeHeader (key : String) (inner : Table) (around : Table) : Option (Unit × Table) :=
  some ((), around.put key (.table inner))

/-- Makes room for one more table under a key. -/
def openList (key : String) (around : Table) : Option (Table × Table) :=
  match around.find? key with
  | none => some (root, around.put key (.tables []))
  | some (.tables _) => some (root, around)
  | some _ => none

/-- Adds a table to the list under a key. -/
def closeList (key : String) (inner : Table) (around : Table) : Option (Unit × Table) :=
  match around.find? key with
  | none => some ((), around.put key (.tables [inner]))
  | some (.tables tables) => some ((), around.put key (.tables (tables ++ [inner])))
  | some _ => none

mutual

/-- The finished table as a value. -/
def toValue : Table → Value
  | mk _ _ entries => .table (entryValues entries)

/-- The values of some entries. -/
def entryValues : List (String × Node) → List (String × Value)
  | [] => []
  | (key, node) :: rest => (key, nodeValue node) :: entryValues rest

/-- The value of what stands under a key. -/
def nodeValue : Node → Value
  | .value value => value
  | .table table => toValue table
  | .tables tables => .array (tableValues tables)

/-- The values of a list of tables. -/
def tableValues : List Table → List Value
  | [] => []
  | table :: rest => toValue table :: tableValues rest

end

end Table

/-- The place that the lines of a document stand in. -/
structure Place where
  /-- Everything but the table that is open. -/
  outer : Table
  /-- The header of the open table, none for the beginning of the document. -/
  header : Option (List String × String)
  /-- Whether the header is in double brackets. -/
  inList : Bool
  /-- The table that is open. -/
  current : Table

namespace Place

/-- The beginning of a document. -/
def start : Place := ⟨.root, none, false, .root⟩

/-- The document with the open table put into its place. -/
def close (place : Place) : Option Table :=
  match place.header with
  | none => some place.current
  | some (path, key) =>
    let back := if place.inList then Table.closeList key else Table.closeHeader key
    (place.outer.visit path (back place.current)).map (·.2)

/-- Goes on in the table of a header. -/
def enter (place : Place) (path : List String) (key : String) (inList : Bool) : Option Place := do
  let whole ← place.close
  let opening := if inList then Table.openList key else Table.openHeader key
  let (current, outer) ← whole.visit path opening
  some ⟨outer, some (path, key), inList, current⟩

/-- Gives a value to a key of the open table. -/
def define (place : Place) (path : List String) (key : String) (value : Value) : Option Place := do
  let current ← place.current.define path key value
  some { place with current }

end Place

end OfflineSigner.Toml

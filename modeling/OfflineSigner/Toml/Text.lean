import OfflineSigner.Text.Hex

/-!
# Blanks, comments, keys and texts in TOML

The parts of a TOML document below the level of values. A text stands between double quotes, where
a backslash begins an escape, or between single quotes, where it does not; tripled quotes allow
line ends, which are read as line feeds. Every reader gives what it read and what follows it.
-/

namespace OfflineSigner.Toml

/-- Drops spaces and tabs. -/
def skipSpace (cs : List Char) : List Char :=
  cs.dropWhile fun c => c == ' ' || c == '\t'

/-- Whether a character may stand in a comment or a text: no control other than the tab. -/
def isPlain (c : Char) : Bool :=
  c == '\t' || (0x20 ≤ c.toNat && c.toNat != 0x7f)

/-- Reads a line end. -/
def readNewline : List Char → Option (List Char)
  | '\n' :: rest => some rest
  | '\r' :: '\n' :: rest => some rest
  | _ => none

/-- Drops a comment, if there is one. -/
def skipComment : List Char → List Char
  | '#' :: rest => rest.dropWhile isPlain
  | cs => cs

/-- Reads what may follow a line: spaces, a comment, and the line end or the end of the document. -/
def readLineEnd (cs : List Char) : Option (List Char) :=
  match skipComment (skipSpace cs) with
  | [] => some []
  | rest => readNewline rest

/-- Drops spaces, comments and line ends between the items of an array. -/
def skipLines : Nat → List Char → Option (List Char)
  | 0, cs => some cs
  | fuel + 1, cs =>
    match skipSpace cs with
    | '#' :: rest => do skipLines fuel (← readNewline (rest.dropWhile isPlain))
    | '\n' :: rest => skipLines fuel rest
    | '\r' :: '\n' :: rest => skipLines fuel rest
    | rest => some rest

/-- The value of the hexadecimal digits at the front, if there are as many as asked for. -/
def readHexDigits (count : Nat) (cs : List Char) : Option (Nat × List Char) := do
  let digits ← (cs.take count).mapM fun c => Hex.digitValue? c.toNat
  if digits.length = count then
    some (digits.foldl (fun total d => 16 * total + d) 0, cs.drop count)
  else none

/-- The character with a number, if the number is that of a character. -/
def charOf? (code : Nat) : Option Char :=
  if code.isValidChar then some (Char.ofNat code) else none

/-- Reads what follows the backslash of an escape. -/
def readEscape : List Char → Option (Char × List Char)
  | 'b' :: rest => some ('\x08', rest)
  | 'f' :: rest => some ('\x0c', rest)
  | 'n' :: rest => some ('\n', rest)
  | 'r' :: rest => some ('\r', rest)
  | 't' :: rest => some ('\t', rest)
  | '"' :: rest => some ('"', rest)
  | '\\' :: rest => some ('\\', rest)
  | 'u' :: rest => do
    let (code, rest) ← readHexDigits 4 rest
    some (← charOf? code, rest)
  | 'U' :: rest => do
    let (code, rest) ← readHexDigits 8 rest
    some (← charOf? code, rest)
  | _ => none

/-- Reads a text up to its closing double quote. -/
def readBasic : Nat → List Char → Option (List Char × List Char)
  | 0, _ => none
  | fuel + 1, cs =>
    match cs with
    | '"' :: rest => some ([], rest)
    | '\\' :: rest => do
      let (c, rest) ← readEscape rest
      let (tail, rest) ← readBasic fuel rest
      some (c :: tail, rest)
    | c :: rest =>
      if isPlain c then do
        let (tail, rest) ← readBasic fuel rest
        some (c :: tail, rest)
      else none
    | [] => none

/-- Reads a text up to its closing single quote. -/
def readLiteral : List Char → Option (List Char × List Char)
  | '\'' :: rest => some ([], rest)
  | c :: rest =>
    if isPlain c then (readLiteral rest).map fun (tail, rest) => (c :: tail, rest) else none
  | [] => none

/-- Splits a run of closing quotes into those that belong to the text and the rest. -/
def closeTripled (quote : Char) (cs : List Char) : List Char × List Char :=
  let count := (cs.takeWhile (· == quote)).length
  (List.replicate (min (count - 3) 2) quote, cs.drop (min count 5))

/-- Drops spaces, tabs and line ends after a line that a backslash folds. -/
def skipFolded : List Char → List Char
  | ' ' :: rest | '\t' :: rest | '\n' :: rest => skipFolded rest
  | '\r' :: '\n' :: rest => skipFolded rest
  | cs => cs

/-- Reads a text up to its tripled closing quotes; escapes are read only within double quotes. -/
def readTripled (quote : Char) : Nat → List Char → Option (List Char × List Char)
  | 0, _ => none
  | fuel + 1, cs =>
    match cs with
    | '\r' :: '\n' :: rest | '\n' :: rest => do
      let (tail, rest) ← readTripled quote fuel rest
      some ('\n' :: tail, rest)
    | c :: rest =>
      if c == quote then
        if 3 ≤ (cs.takeWhile (· == quote)).length then some (closeTripled quote cs)
        else do
          let (tail, rest) ← readTripled quote fuel rest
          some (c :: tail, rest)
      else if c == '\\' && quote == '"' then
        match readNewline (skipSpace rest) with
        | some rest =>
          readTripled quote fuel (skipFolded rest)
        | none => do
          let (c, rest) ← readEscape rest
          let (tail, rest) ← readTripled quote fuel rest
          some (c :: tail, rest)
      else if isPlain c then do
        let (tail, rest) ← readTripled quote fuel rest
        some (c :: tail, rest)
      else none
    | [] => none

/-- Drops the line end right after opening tripled quotes. -/
def skipFirstNewline (cs : List Char) : List Char :=
  (readNewline cs).getD cs

/-- Reads a text of any of the four forms. -/
def readText (cs : List Char) : Option (String × List Char) :=
  let read := match cs with
    | '"' :: '"' :: '"' :: rest => readTripled '"' (rest.length + 1) (skipFirstNewline rest)
    | '\'' :: '\'' :: '\'' :: rest => readTripled '\'' (rest.length + 1) (skipFirstNewline rest)
    | '"' :: rest => readBasic (rest.length + 1) rest
    | '\'' :: rest => readLiteral rest
    | _ => none
  read.map fun (chars, rest) => (String.ofList chars, rest)

/-- Whether a character may stand in a key without quotes. -/
def isBareKeyChar (c : Char) : Bool :=
  c.isAlphanum || c == '-' || c == '_'

/-- Reads one part of a key. -/
def readSimpleKey (cs : List Char) : Option (String × List Char) :=
  let read := match cs with
    | '"' :: rest => readBasic (rest.length + 1) rest
    | '\'' :: rest => readLiteral rest
    | _ =>
      let key := cs.takeWhile isBareKeyChar
      if key.isEmpty then none else some (key, cs.dropWhile isBareKeyChar)
  read.map fun (chars, rest) => (String.ofList chars, rest)

/-- Reads the parts of a key, with dots and spaces between them. -/
def readKeyParts : Nat → List Char → Option (List String × List Char)
  | 0, _ => none
  | fuel + 1, cs => do
    let (first, rest) ← readSimpleKey (skipSpace cs)
    match skipSpace rest with
    | '.' :: rest => do
      let (others, rest) ← readKeyParts fuel rest
      some (first :: others, rest)
    | rest => some ([first], rest)

/-- The number of levels from which on keys and values are refused as nested too deeply. -/
def nestingLimit : Nat := 80

/-- Reads a key as the path to its last part and the last part. -/
def readKey (cs : List Char) : Option ((List String × String) × List Char) := do
  let (parts, rest) ← readKeyParts (cs.length + 1) cs
  let last ← parts.getLast?
  if parts.length < nestingLimit then some ((parts.dropLast, last), rest) else none

end OfflineSigner.Toml

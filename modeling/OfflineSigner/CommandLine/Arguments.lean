import OfflineSigner.Text.ControlSequence
import OfflineSigner.Text.Decimal
import OfflineSigner.ValueError

/-!
# Command-line arguments

How a list of words is read as options, flags and a subcommand. An option takes the next word or the
text after an equals sign as its value; a word that begins with a dash is never the next word's
value, except a negative number where the option allows it. An option counts when the next one
begins or the words end: only then is it noticed that it is given twice or that its value does not
fit. A word that cannot be placed is reported at once. Options that are not given are looked up in
the environment, and options that are then missing are reported last, in the order of their
declaration.
-/

namespace OfflineSigner.CommandLine

/-- Why the value of an option is refused. -/
inductive ValueFault where
  /-- The value is empty although it must not be. -/
  | missing
  | invalid (reason : String)
deriving DecidableEq

/-- Why the arguments are refused. -/
inductive ArgumentFault where
  | invalidValue (option reason : String)
  | missingValue (option : String)
  /-- An option that has to be given is not given. -/
  | missingRequired (option : String)
  /-- Nothing is known by this word. -/
  | unknownArgument (word : String)
  /-- A flag has a value. -/
  | unexpectedValue (option value : String)
  | invalidSubcommand (word : String)
  | missingSubcommand
  | repeatedOption (option : String)
deriving DecidableEq

/-- The wording of a fault, with the words of the user as they were typed. -/
def ArgumentFault.message : ArgumentFault → String
  | invalidValue option reason => s!"invalid value for '--{option}': {reason}"
  | missingValue option => s!"a value is required for '--{option}' but none was supplied"
  | missingRequired option => s!"the required argument '--{option}' was not provided"
  | unknownArgument word => s!"unexpected argument '{word}' found"
  | unexpectedValue option value => s!"unexpected value '{value}' for '--{option}' found"
  | invalidSubcommand word => s!"unrecognized subcommand '{word}'"
  | missingSubcommand => "a subcommand is required but one was not provided"
  | repeatedOption option => s!"the argument '--{option}' cannot be used multiple times"

/-- What stands behind every message, with the option in bold letters. -/
def helpHint : String :=
  "\n\nFor more information, try '\x1b[1m--help\x1b[0m'.\n"

/-- A text in front of the hint as it is shown, and without the hint. A control sequence that the
text leaves open can swallow the beginning of the hint; what is left of the hint then stays. -/
def shownBeforeHint (text : String) : String :=
  let shown := Text.withoutControls (text ++ helpHint)
  let hint := Text.withoutControls helpHint
  if shown.endsWith hint then (shown.dropEnd hint.length).toString
  else (shown.dropEnd 1).toString

/-- All that is shown of a fault. -/
def ArgumentFault.report (fault : ArgumentFault) : String :=
  Text.withoutControls s!"error: {fault.message}{helpHint}"

/-- Why a value does not fit, as it is shown. -/
def ArgumentFault.reason? : ArgumentFault → Option String
  | invalidValue _ reason => some (shownBeforeHint reason)
  | _ => none

/-- The fault of an option whose value is refused. -/
def ValueFault.of (option : String) : ValueFault → ArgumentFault
  | missing => .missingValue option
  | invalid reason => .invalidValue option reason

/-- An option or a flag. -/
structure OptionShape where
  /-- The word that follows the two dashes. -/
  name : String
  takesValue : Bool
  repeatable : Bool
  /-- Whether a negative number may be its value. -/
  allowsNegative : Bool
  /-- The environment variable that stands in for it. -/
  fallback? : Option String
  fault? : String → Option ValueFault

/-- Options given so far with their values, in the order in which they were given. -/
abbrev Given := List (String × String)

/-- Reads some options: their shapes, and the value that they make up. -/
structure OptionReader (α : Type) where
  /-- The options in the order of their declaration. -/
  shapes : List OptionShape
  /-- The value made of the options given. -/
  build : Given → Except ArgumentFault α

namespace OptionReader

variable {α β : Type}

instance : Functor OptionReader where
  map f reader := ⟨reader.shapes, fun given => (reader.build given).map f⟩

instance : Applicative OptionReader where
  pure value := ⟨[], fun _ => .ok value⟩
  seq function argument :=
    ⟨function.shapes ++ (argument ()).shapes, fun given => do
      let f ← function.build given
      let a ← (argument ()).build given
      return f a⟩

/-- The shape of an option whose values are read in a given way. -/
def shapeOf (name : String) (read : String → Except ValueFault α) : OptionShape where
  name
  takesValue := true
  repeatable := false
  allowsNegative := false
  fallback? := none
  fault? value := match read value with
    | .ok _ => none
    | .error fault => some fault

/-- Reads the value of an option that is given. -/
def valueOf (name : String) (read : String → Except ValueFault α) (value : String) :
    Except ArgumentFault α :=
  (read value).mapError (·.of name)

/-- An option that need not be given. -/
def optional (name : String) (read : String → Except ValueFault α) : OptionReader (Option α) :=
  ⟨[shapeOf name read], fun given =>
    match given.lookup name with
    | some value => (valueOf name read value).map some
    | none => .ok none⟩

/-- An option that has to be given. -/
def required (name : String) (read : String → Except ValueFault α) : OptionReader α :=
  ⟨[shapeOf name read], fun given =>
    match given.lookup name with
    | some value => valueOf name read value
    | none => .error (.missingRequired name)⟩

/-- An option that has a default. -/
def withDefault (name : String) (read : String → Except ValueFault α) (default : α) :
    OptionReader α :=
  ⟨[shapeOf name read], fun given =>
    match given.lookup name with
    | some value => valueOf name read value
    | none => .ok default⟩

/-- An option that may be given any number of times. -/
def many (name : String) (read : String → Except ValueFault α) : OptionReader (List α) :=
  ⟨[{ shapeOf name read with repeatable := true }], fun given =>
    (given.filter (·.1 == name)).mapM fun entry => valueOf name read entry.2⟩

/-- A flag. -/
def flag (name : String) : OptionReader Bool :=
  ⟨[{ name, takesValue := false, repeatable := false, allowsNegative := false, fallback? := none,
      fault? := fun _ => none }],
    fun given => .ok (given.lookup name).isSome⟩

/-- The same options, which an environment variable may stand in for. -/
def orVariable (reader : OptionReader α) (variableName : String) : OptionReader α :=
  { reader with shapes := reader.shapes.map fun shape => { shape with fallback? := variableName } }

/-- The same options, whose values may be negative numbers. -/
def allowingNegative (reader : OptionReader α) : OptionReader α :=
  { reader with shapes := reader.shapes.map fun shape => { shape with allowsNegative := true } }

end OptionReader

/-- Takes a value as it is. -/
def readText (value : String) : Except ValueFault String := .ok value

/-- Takes the path of a file, which must not be empty. -/
def readPath (value : String) : Except ValueFault String :=
  if value.isEmpty then .error .missing else .ok value

/-- Reads a 64-bit number. -/
def readUInt64 (value : String) : Except ValueFault UInt64 :=
  (Decimal.readUInt64 value).mapError fun fault => .invalid fault.message

/-- Reads a 64-bit integer. -/
def readInt64 (value : String) : Except ValueFault Int64 :=
  (Decimal.readInt64 value).mapError fun fault => .invalid fault.message

/-- Reads a value that is known by a name. -/
def readName {α : Type} (ofName : String → Except ValueError α) (value : String) :
    Except ValueFault α :=
  (ofName value).mapError fun error => .invalid error.message

/-- Reads a key and a value with an equals sign between them, the first one if there are several. -/
def readPair (text : String) : Except ValueFault (String × String) :=
  let key := text.toList.takeWhile (· != '=')
  match text.toList.dropWhile (· != '=') with
  | _ :: value => .ok (String.ofList key, String.ofList value)
  | [] => .error (.invalid s!"expected key=value, got `{text}`")

/-- What the words of one level may be. -/
structure Level where
  shapes : List OptionShape
  /-- The subcommands; a level that has some takes no other words. -/
  subcommands : List String
  showsVersion : Bool

/-- The option at work: none, one that waits for its value, or one with its value. -/
inductive Pending where
  | idle
  | waiting (shape : OptionShape)
  /-- The option has its value but does not count yet. -/
  | holding (shape : OptionShape) (value : String)

/-- Lets an option count. -/
def accept (shape : OptionShape) (value : String) (given : Given) : Except ArgumentFault Given :=
  if !shape.repeatable && (given.lookup shape.name).isSome then .error (.repeatedOption shape.name)
  else
    match shape.fault? value with
    | some fault => .error (fault.of shape.name)
    | none => .ok (given ++ [(shape.name, value)])

/-- Lets the option at work count. -/
def Pending.settle (given : Given) : Pending → Except ArgumentFault Given
  | idle => .ok given
  | waiting shape => .error (.missingValue shape.name)
  | holding shape value => accept shape value given

/-- What the form of a word says about it. -/
inductive Form where
  /-- Two dashes alone, after which no word is an option. -/
  | separator
  /-- An option by its name, perhaps with the value after an equals sign. -/
  | named (name : String) (attached : Option String)
  | letters (letters : List Char)
  | plain

/-- The form of a word. -/
def formOf (word : String) : Form :=
  match word.toList with
  | ['-', '-'] => .separator
  | '-' :: '-' :: rest =>
    let name := String.ofList (rest.takeWhile (· != '='))
    match rest.dropWhile (· != '=') with
    | _ :: value => .named name (some (String.ofList value))
    | [] => .named name none
  | '-' :: c :: rest => .letters (c :: rest)
  | _ => .plain

/-- Whether a character introduces a power of ten. -/
def isPowerMark (c : Char) : Bool := c == 'e' || c == 'E'

/-- Whether some characters are those of a number without a sign: digits, a point after the first
character, and a power of ten that has digits. -/
def looksNumeric (chars : List Char) : Bool :=
  let mantissa := chars.takeWhile (!isPowerMark ·)
  let power := chars.dropWhile (!isPowerMark ·)
  let points := mantissa.filter (· == '.')
  mantissa.all (fun c => c.isDigit || c == '.') && points.length ≤ 1 &&
    mantissa.head? != some '.' &&
    match power with
    | [] => true
    | _ :: digits => !mantissa.isEmpty && !digits.isEmpty && digits.all Char.isDigit

/-- What the words of a level amount to. -/
inductive Scanned where
  | finished (given : Given)
  /-- A subcommand takes the other words, while an option may still be at work. -/
  | subcommand (name : String) (rest : List String) (pending : Pending) (given : Given)
  | help
  | version

namespace Level

/-- The fault of a word that cannot be placed. -/
def misplaced (level : Level) (separated : Bool) (word : String) : ArgumentFault :=
  if level.subcommands.isEmpty || (separated && level.subcommands.contains word) then
    .unknownArgument word
  else .invalidSubcommand word

/-- Reads a single letter after a dash. -/
def scanLetter (level : Level) (pending : Pending) (given : Given) (letter : Char) :
    Except ArgumentFault Scanned :=
  if letter == 'h' then (pending.settle given).map fun _ => .help
  else if letter == 'V' && level.showsVersion then (pending.settle given).map fun _ => .version
  else .error (.unknownArgument ("-" ++ String.singleton letter))

/-- Reads the words of a level; `separated` tells whether the separator has been met. -/
def scan (level : Level) (separated : Bool) (pending : Pending) (given : Given) :
    List String → Except ArgumentFault Scanned
  | [] => (pending.settle given).map .finished
  | word :: rest =>
    if separated then .error (level.misplaced true word)
    else
      match pending, formOf word with
      | .waiting shape, .plain => scan level false (.holding shape word) given rest
      | pending, .plain =>
        if level.subcommands.contains word then .ok (.subcommand word rest pending given)
        else .error (level.misplaced false word)
      | pending, .separator => scan level true pending given rest
      | .waiting shape, .letters letters =>
        if shape.allowsNegative && looksNumeric letters then
          scan level false (.holding shape word) given rest
        else level.scanLetter pending given (letters.headD ' ')
      | pending, .letters letters => level.scanLetter pending given (letters.headD ' ')
      | pending, .named name attached =>
        match level.shapes.find? (·.name == name), attached with
        | some shape, some value =>
          if shape.takesValue then do
            let given ← pending.settle given
            let given ← accept shape value given
            scan level false .idle given rest
          else .error (.unexpectedValue name value)
        | some shape, none => do
          let given ← pending.settle given
          if shape.takesValue then scan level false (.waiting shape) given rest
          else do
            let given ← accept shape "" given
            scan level false .idle given rest
        | none, attached =>
          if name == "help" || (name == "version" && level.showsVersion) then
            match attached with
            | some value => .error (.unexpectedValue name value)
            | none => (pending.settle given).map fun _ => if name == "help" then .help else .version
          else .error (.unknownArgument word)

end Level

/-- Adds the options that only the environment gives. -/
def addVariables (environment : String → Option String) :
    List OptionShape → Given → Except ArgumentFault Given
  | [], given => .ok given
  | shape :: rest, given =>
    match given.lookup shape.name, shape.fallback? >>= environment with
    | none, some value => do addVariables environment rest (← accept shape value given)
    | _, _ => addVariables environment rest given

end OfflineSigner.CommandLine

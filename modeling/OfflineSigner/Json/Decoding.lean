import OfflineSigner.Json.Value
import OfflineSigner.ValueError

/-!
# From JSON values to typed values

How a JSON value is read as a value of a wanted type, and the one error that is reported when it is
not. A record is an object, whose members are read in the order in which they stand before missing
ones are noticed in the order of the declaration; or it is an array of its fields. Members that no
field is named after are ignored. A choice is a text or an object with a single member.
-/

namespace OfflineSigner

/-- Why a JSON value is no value of the wanted type. -/
inductive DecodeError where
  /-- The kind of value is wrong. -/
  | wrongType (found : Json) (wanted : String)
  /-- The kind of value is right but the value is not among those wanted. -/
  | wrongValue (found : Json) (wanted : String)
  /-- A choice was only named although it carries a value. -/
  | bareVariant (wanted : String)
  | wrongLength (length : Nat) (wanted : String)
  | missingField (name : String)
  | repeatedField (name : String)
  | unknownVariant (name : String) (known : List String)
  /-- The value is refused by its own type. -/
  | refused (reason : ValueError)

namespace Json

/-- What a value is called in an error. -/
def describe : Json → String
  | .null => "null"
  | .boolean value => s!"boolean `{value}`"
  | .integer value => s!"integer `{Decimal.ofInt value}`"
  | .double value => s!"floating point `{value.text}`"
  | .string value => s!"string {Text.quote value}"
  | .array _ => "sequence"
  | .object _ => "map"

end Json

/-- The names that are allowed, for an error. -/
def DecodeError.choices (known : List String) : String :=
  match known.map fun name => s!"`{name}`" with
  | [] => "there are no variants"
  | [one] => s!"expected {one}"
  | [one, other] => s!"expected {one} or {other}"
  | many => "expected one of " ++ ", ".intercalate many

/-- The wording of an error. -/
def DecodeError.message : DecodeError → String
  | .wrongType found wanted => s!"invalid type: {found.describe}, expected {wanted}"
  | .wrongValue found wanted => s!"invalid value: {found.describe}, expected {wanted}"
  | .bareVariant wanted => s!"invalid type: unit variant, expected {wanted}"
  | .wrongLength length wanted => s!"invalid length {length}, expected {wanted}"
  | .missingField name => s!"missing field `{name}`"
  | .repeatedField name => s!"duplicate field `{name}`"
  | .unknownVariant name known => s!"unknown variant `{name}`, {choices known}"
  | .refused reason => reason.message

namespace Json

/-- The error of a check on a value that has been read. -/
def refuse {α : Type} : Except ValueError α → Except DecodeError α
  | .ok value => .ok value
  | .error reason => .error (.refused reason)

/-- Reads a text. -/
def readString : Json → Except DecodeError String
  | .string value => .ok value
  | other => .error (.wrongType other "a string")

/-- Reads an integer from zero to the limit. -/
def readNatural (limit : Nat) (wanted : String) : Json → Except DecodeError Nat
  | .integer n =>
    if 0 ≤ n ∧ n ≤ limit then .ok n.toNat else .error (.wrongValue (.integer n) wanted)
  | other => .error (.wrongType other wanted)

/-- Reads a 64-bit number. -/
def readUInt64 (value : Json) : Except DecodeError UInt64 :=
  (value.readNatural ((1 <<< 64) - 1) "u64").map UInt64.ofNat

/-- Reads a byte. -/
def readByte (value : Json) : Except DecodeError UInt8 :=
  (value.readNatural 255 "u8").map UInt8.ofNat

/-- Reads nothing, which is written as null. -/
def readNothing : Json → Except DecodeError Unit
  | .null => .ok ()
  | other => .error (.wrongType other "unit")

/-- Reads a value that may be null. -/
def readOptional {α : Type} (read : Json → Except DecodeError α) :
    Json → Except DecodeError (Option α)
  | .null => .ok none
  | value => (read value).map some

/-- Reads the first `n` items of an array as bytes and refuses any further item. -/
def readFixedBytes (n : Nat) : Json → Except DecodeError (FixedBytes n)
  | .array items => do
    let bytes ← (items.take n).mapM readByte
    match FixedBytes.ofList? bytes with
    | some value =>
      if items.length ≤ n then .ok value
      else .error (.wrongLength items.length "fewer elements in array")
    | none => .error (.wrongLength items.length s!"an array of length {n}")
  | other => .error (.wrongType other s!"an array of length {n}")

/-- Splits a choice into its name and, unless it is only named, its value. -/
def readChoice : Json → Except DecodeError (String × Option Json)
  | .string name => .ok (name, none)
  | .object [(name, value)] => .ok (name, some value)
  | .object members => .error (.wrongValue (.object members) "map with a single key")
  | other => .error (.wrongType other "string or map")

/-- Reads a choice among values that carry nothing, each under its name. -/
def readNamed {α : Type} (choices : List (String × α)) (value : Json) : Except DecodeError α := do
  let (name, content?) ← value.readChoice
  match choices.lookup name with
  | none => .error (.unknownVariant name (choices.map (·.1)))
  | some choice =>
    match content? with
    | none => .ok choice
    | some content => do
      content.readNothing
      .ok choice

end Json

/-- A field of a record: its name and the error of a value that does not fit it. -/
structure FieldShape where
  name : String
  /-- The error of a value, if there is one. -/
  fault? : Json → Option DecodeError

/-- Reads a record: the fields in the order of their declaration, and the record made of what is
found under their names. -/
structure RecordReader (α : Type) where
  /-- The fields in the order of their declaration. -/
  fields : List FieldShape
  /-- The record of the values found; the second argument gives the error of a missing field. -/
  build : (String → Option Json) → (String → DecodeError) → Except DecodeError α

namespace RecordReader

variable {α β : Type}

instance : Functor RecordReader where
  map f reader := ⟨reader.fields, fun find absent => (reader.build find absent).map f⟩

instance : Applicative RecordReader where
  pure value := ⟨[], fun _ _ => .ok value⟩
  seq function argument :=
    ⟨function.fields ++ (argument ()).fields, fun find absent => do
      let f ← function.build find absent
      let a ← (argument ()).build find absent
      return f a⟩

/-- The error that a reading gives, if it gives one. -/
def faultOf (read : Json → Except DecodeError α) (value : Json) : Option DecodeError :=
  match read value with
  | .ok _ => none
  | .error error => some error

/-- A field that has to be there. -/
def required (name : String) (read : Json → Except DecodeError α) : RecordReader α :=
  ⟨[⟨name, faultOf read⟩], fun find absent =>
    match find name with
    | some value => read value
    | none => .error (absent name)⟩

/-- A field that has a default. -/
def withDefault (name : String) (read : Json → Except DecodeError α) (default : α) :
    RecordReader α :=
  ⟨[⟨name, faultOf read⟩], fun find _ =>
    match find name with
    | some value => read value
    | none => .ok default⟩

/-- Looks at members in their order; `seen` holds the names of the fields met so far. -/
def checkMembers (fields : List FieldShape) :
    List String → List (String × Json) → Except DecodeError Unit
  | _, [] => .ok ()
  | seen, (name, value) :: rest =>
    match fields.find? (·.name == name) with
    | none => checkMembers fields seen rest
    | some field =>
      if seen.contains name then .error (.repeatedField name)
      else
        match field.fault? value with
        | some error => .error error
        | none => checkMembers fields (name :: seen) rest

/-- Reads the members of an object. -/
def ofMembers (reader : RecordReader α) (members : List (String × Json)) :
    Except DecodeError α := do
  checkMembers reader.fields [] members
  reader.build (members.lookup ·) .missingField

/-- Reads the items of an array as the fields in the order of their declaration. -/
def ofItems (reader : RecordReader α) (called : String) (items : List Json) :
    Except DecodeError α := do
  let names := reader.fields.map (·.name)
  let value ← reader.build ((names.zip items).lookup ·) fun name =>
    .wrongLength (names.idxOf name) s!"{called} with {names.length} elements"
  if items.length ≤ names.length then .ok value
  else .error (.wrongLength items.length "fewer elements in array")

/-- Reads a record in either form; `called` is what errors call it. -/
def ofJson (reader : RecordReader α) (called : String) : Json → Except DecodeError α
  | .object members => reader.ofMembers members
  | .array items => reader.ofItems called items
  | other => .error (.wrongType other called)

/-- Reads the record that a choice carries, which has to be an object. -/
def ofContent (reader : RecordReader α) : Option Json → Except DecodeError α
  | some (.object members) => reader.ofMembers members
  | some other => .error (.wrongType other "struct variant")
  | none => .error (.bareVariant "struct variant")

end RecordReader

end OfflineSigner

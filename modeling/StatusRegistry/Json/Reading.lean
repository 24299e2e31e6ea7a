import StatusRegistry.Json.Text
import StatusRegistry.Text.Quoted
import StatusRegistry.Validation

/-!
# Reading documents

How typed values are read from JSON, and what is reported when a document does not fit.

* A record may be given as an object or as an array of its fields in their declared order.
* In an object the members are visited in ascending order of their names and the first that does
  not fit decides the error; only then is the first missing one reported, in declared order.
  Members of other names are ignored.
* In an array the fields are visited in declared order.  A field that may be left out takes its
  default past the end of the array; any other is reported there.
* A whole number fits a kind of integer if it lies in its range; a floating-point number never
  does.
-/

set_option autoImplicit false

namespace StatusRegistry

/-- The kinds of integer that fields hold. -/
inductive IntegerKind where
  | u8
  | u32
  | u64
  | i64
  deriving DecidableEq, Repr

namespace IntegerKind

/-- The least integer of a kind. -/
def least : IntegerKind → Int
  | i64 => -9223372036854775808
  | _ => 0

/-- The greatest integer of a kind. -/
def greatest : IntegerKind → Int
  | u8 => 255
  | u32 => 4294967295
  | u64 => 18446744073709551615
  | i64 => 9223372036854775807

/-- The name of a kind in messages. -/
def name : IntegerKind → String
  | u8 => "u8"
  | u32 => "u32"
  | u64 => "u64"
  | i64 => "i64"

end IntegerKind

/-- What a reader was looking for. -/
inductive Expected where
  | string
  | boolean
  | integer (kind : IntegerKind)
  | map
  | sequence
  | record (name : String)
  | uuid
  | dateTime
  deriving DecidableEq, Repr

/-- The name of what was looked for, in messages. -/
def Expected.message : Expected → String
  | string => "a string"
  | boolean => "a boolean"
  | integer kind => kind.name
  | map => "a map"
  | sequence => "a sequence"
  | record name => "struct " ++ name
  | uuid => "a formatted UUID string"
  | dateTime => "an RFC 3339 formatted date and time string"

/-- Why a document could not be read. -/
inductive ReadError where
  /-- A value of another type than the one looked for. -/
  | wrongType (found : Json) (expected : Expected)
  /-- A whole number outside the range of its field. -/
  | outOfRange (found : Int) (kind : IntegerKind)
  /-- A required member is missing. -/
  | missing (field : String)
  /-- An array ends in front of a required field. -/
  | tooShort (position : Nat) (record : String) (fields : Nat)
  /-- An array has more items than the record has fields. -/
  | tooLong (length : Nat)
  /-- A value fits none of the forms a field may take. -/
  | noForm (field : String)
  /-- An identifier, purpose or width that is turned down. -/
  | rejected (cause : ValidationError)
  /-- A text that is no UUID. -/
  | uuid
  /-- A text that is no date and time. -/
  | dateTime
  deriving Repr

namespace ReadError

open Text

/-- How a value is named when it has the wrong type. -/
def found : Json → String
  | .null => "null"
  | .bool b => "boolean \x60" ++ (if b then "true" else "false") ++ "\x60"
  | .int i => "integer \x60" ++ integerText i ++ "\x60"
  | .float x => "floating point \x60" ++ Json.floatText x ++ "\x60"
  | .string s => "string " ++ quoted s
  | .array _ => "sequence"
  | .object _ => "map"

/-- The wording of a reading error. -/
def message : ReadError → String
  | wrongType j e => "invalid type: " ++ found j ++ ", expected " ++ e.message
  | outOfRange i kind =>
    "invalid value: integer \x60" ++ integerText i ++ "\x60, expected " ++ kind.name
  | missing field => "missing field \x60" ++ field ++ "\x60"
  | tooShort position record fields =>
    "invalid length " ++ decimalText position ++ ", expected struct " ++ record ++ " with " ++
      decimalText fields ++ " elements"
  | tooLong length =>
    "invalid length " ++ decimalText length ++ ", expected fewer elements in array"
  | noForm field => "data did not match any variant of untagged enum " ++ field
  | rejected cause => cause.message
  | uuid => "invalid UUID"
  | dateTime => "invalid datetime"

end ReadError

/-- A reader of one type of value. -/
abbrev Reader (α : Type) := Json → Except ReadError α

namespace Reader

/-- Any value as it is. -/
def any : Reader Json := .ok

/-- A string. -/
def string : Reader String
  | .string s => .ok s
  | j => .error (.wrongType j .string)

/-- A boolean. -/
def boolean : Reader Bool
  | .bool b => .ok b
  | j => .error (.wrongType j .boolean)

/-- A whole number in the range of a kind. -/
def integer (kind : IntegerKind) : Reader Int
  | .int i => if kind.least ≤ i ∧ i ≤ kind.greatest then .ok i else .error (.outOfRange i kind)
  | j => .error (.wrongType j (.integer kind))

/-- A byte. -/
def u8 : Reader UInt8 := fun j => (integer .u8 j).map fun i => .ofNat i.toNat

/-- An unsigned 32-bit number. -/
def u32 : Reader UInt32 := fun j => (integer .u32 j).map fun i => .ofNat i.toNat

/-- An unsigned 64-bit number. -/
def u64 : Reader UInt64 := fun j => (integer .u64 j).map fun i => .ofNat i.toNat

/-- A signed 64-bit number. -/
def i64 : Reader Int64 := fun j => (integer .i64 j).map Int64.ofInt

/-- An object, as its members. -/
def members : Reader Json.Members
  | .object ms => .ok ms
  | j => .error (.wrongType j .map)

/-- The items of an array, each read in turn. -/
def list {α : Type} (read : Reader α) : Reader (List α)
  | .array items => items.mapM read
  | j => .error (.wrongType j .sequence)

/-- A value that may be null instead. -/
def optional {α : Type} (read : Reader α) : Reader (Option α)
  | .null => .ok none
  | j => (read j).map some

end Reader

/-! ## Records given as objects -/

namespace Json.Members

variable {α : Type}

/-- Reads a member if it is there. -/
def field? (ms : Members) (name : String) (read : Reader α) : Except ReadError (Option α) :=
  match ms.lookup? name with
  | some j => (read j).map some
  | none => .ok none

/-- Reads a member that may be missing or null. -/
def optional (ms : Members) (name : String) (read : Reader α) : Except ReadError (Option α) :=
  match ms.lookup? name with
  | some j => Reader.optional read j
  | none => .ok none

end Json.Members

/-- The value of a required member, or the report that it is missing. -/
def require {α : Type} (name : String) : Option α → Except ReadError α
  | some a => .ok a
  | none => .error (.missing name)

/-! ## Records given as arrays -/

/-- The name of a record and the number of its fields. -/
structure Shape where
  name : String
  fields : Nat

namespace Shape

variable {α : Type}

/-- Reads the required field at a position. -/
def item (shape : Shape) (items : List Json) (position : Nat) (read : Reader α) :
    Except ReadError α :=
  match items[position]? with
  | some j => read j
  | none => .error (.tooShort position shape.name shape.fields)

/-- Reads the field at a position, which may be null or past the end. -/
def optional (items : List Json) (position : Nat) (read : Reader α) :
    Except ReadError (Option α) :=
  match items[position]? with
  | some j => Reader.optional read j
  | none => .ok none

/-- Turns down an array with more items than the record has fields. -/
def close (shape : Shape) (items : List Json) : Except ReadError Unit :=
  if shape.fields < items.length then .error (.tooLong items.length) else .ok ()

/-- Reads a record from an object or from an array. -/
def read (shape : Shape) (ofMembers : Json.Members → Except ReadError α)
    (ofItems : List Json → Except ReadError α) : Reader α
  | .object ms => ofMembers ms
  | .array items => ofItems items
  | j => .error (.wrongType j (.record shape.name))

end Shape

end StatusRegistry

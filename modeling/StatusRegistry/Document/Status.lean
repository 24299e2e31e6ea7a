import StatusRegistry.Document.Credential
import StatusRegistry.Purpose
import StatusRegistry.Width

/-!
# Status lists and claims in documents

The two documents of a status list: the list itself, as the subject of the credential in which it
is published, and the claim that points a credential at its slot.

* `StatusMessage.code?` reads the code of a message;
* `StatusClaim.index` reads the index of a claim: ASCII digits, leading zeros included, for a
  number below 2^64.
-/

set_option autoImplicit false

namespace StatusRegistry

open Text

/-- Why the content of a document cannot be used. -/
inductive DocumentError where
  | unexpectedType (expected found : String)
  | invalidIndex (text : String)
  deriving DecidableEq, Repr

/-- The wording of a document error. -/
def DocumentError.message : DocumentError → String
  | unexpectedType expected found => "expected type " ++ expected ++ ", found " ++ found
  | invalidIndex text => "statusListIndex must be a decimal string, got " ++ quoted text

/-! ## Messages -/

/-- The meaning of a status code. -/
structure StatusMessage where
  status : String
  message : String
  deriving DecidableEq, Repr

namespace StatusMessage

/-- The message of a code, which is written in hexadecimal with capital letters. -/
def ofCode (code : UInt8) (message : String) : StatusMessage :=
  ⟨"0x" ++ String.ofList ((hex code.toNat).map upperAscii), message⟩

/-- The list without a plus sign in front. -/
def dropPlus : List Char → List Char
  | '+' :: cs => cs
  | cs => cs

/-- The hexadecimal digits of a code, with the plus sign that may stand in front of them. -/
def codeDigits? : List Char → Option (List Char)
  | '0' :: 'x' :: cs => some cs
  | '0' :: 'X' :: cs => some cs
  | _ => none

/-- The code of a message, if it is written as one. -/
def code? (m : StatusMessage) : Option UInt8 :=
  match codeDigits? m.status.toList with
  | none => none
  | some cs =>
    match value? 16 (dropPlus cs) with
    | some n => if n < 256 then some (.ofNat n) else none
    | none => none

/-- The name and the number of fields of a message. -/
def shape : Shape := ⟨"StatusMessage", 2⟩

/-- Reads a message from the members of an object. -/
def ofMembers (ms : Json.Members) : Except ReadError StatusMessage := do
  let message ← ms.field? "message" Reader.string
  let status ← ms.field? "status" Reader.string
  let status ← require "status" status
  let message ← require "message" message
  return ⟨status, message⟩

/-- Reads a message from the items of an array. -/
def ofItems (items : List Json) : Except ReadError StatusMessage := do
  let status ← shape.item items 0 Reader.string
  let message ← shape.item items 1 Reader.string
  shape.close items
  return ⟨status, message⟩

/-- Reads a message from a document. -/
def ofJson : Reader StatusMessage := shape.read ofMembers ofItems

/-- A message in a document. -/
def toJson (m : StatusMessage) : Json :=
  Json.record [("status", some (.string m.status)), ("message", some (.string m.message))]

end StatusMessage

/-! ## Lists -/

/-- A status list as the subject of a credential. -/
structure ListSubject where
  id : Option String
  type : String
  purpose : Purpose
  encodedList : String
  ttl : Option UInt64
  width : Option SlotWidth
  messages : Option (List StatusMessage)
  deriving DecidableEq

namespace ListSubject

/-- The type of a status list. -/
def typeName : String := "BitstringStatusList"

/-- The width of the slots; a list that states none has slots of one bit. -/
def slotWidth (l : ListSubject) : SlotWidth := l.width.getD .one

/-- Refuses a subject of another type. -/
def ensureType (l : ListSubject) : Except DocumentError Unit :=
  if l.type = typeName then .ok () else .error (.unexpectedType typeName l.type)

/-- The name and the number of fields of a list. -/
def shape : Shape := ⟨"BitstringStatusList", 7⟩

/-- Reads a list from the members of an object. -/
def ofMembers (ms : Json.Members) : Except ReadError ListSubject := do
  let encodedList ← ms.field? "encodedList" Reader.string
  let id ← ms.optional "id" Reader.string
  let messages ← ms.optional "statusMessages" (Reader.list StatusMessage.ofJson)
  let purpose ← ms.field? "statusPurpose" Purpose.ofJson
  let width ← ms.optional "statusSize" SlotWidth.ofJson
  let ttl ← ms.optional "ttl" Reader.u64
  let type ← ms.field? "type" Reader.string
  let type ← require "type" type
  let purpose ← require "statusPurpose" purpose
  let encodedList ← require "encodedList" encodedList
  return ⟨id, type, purpose, encodedList, ttl, width, messages⟩

/-- Reads a list from the items of an array. -/
def ofItems (items : List Json) : Except ReadError ListSubject := do
  let id ← Shape.optional items 0 Reader.string
  let type ← shape.item items 1 Reader.string
  let purpose ← shape.item items 2 Purpose.ofJson
  let encodedList ← shape.item items 3 Reader.string
  let ttl ← Shape.optional items 4 Reader.u64
  let width ← Shape.optional items 5 SlotWidth.ofJson
  let messages ← Shape.optional items 6 (Reader.list StatusMessage.ofJson)
  shape.close items
  return ⟨id, type, purpose, encodedList, ttl, width, messages⟩

/-- Reads a list from a document. -/
def ofJson : Reader ListSubject := shape.read ofMembers ofItems

/-- A list in a document. -/
def toJson (l : ListSubject) : Json :=
  Json.record
    [("id", l.id.map .string), ("type", some (.string l.type)),
      ("statusPurpose", some l.purpose.toJson), ("encodedList", some (.string l.encodedList)),
      ("ttl", l.ttl.map fun n => Json.nat n.toNat), ("statusSize", l.width.map SlotWidth.toJson),
      ("statusMessages", l.messages.map fun ms => .array (ms.map StatusMessage.toJson))]

end ListSubject

/-- A credential in which a status list is published. -/
abbrev ListCredential := Credential ListSubject

namespace ListCredential

/-- The type of such a credential beside the one that all credentials have. -/
def typeName : String := "BitstringStatusListCredential"

/-- Reads a status list credential from a document. -/
def ofJson : Reader ListCredential := Credential.ofJson ListSubject.ofJson

/-- A status list credential in a document. -/
def toJson (c : ListCredential) : Json := Credential.toJson ListSubject.toJson c

end ListCredential

/-! ## Claims -/

/-- The claim that points a credential at its slot. -/
structure StatusClaim where
  id : Option String
  type : String
  purpose : Purpose
  indexText : String
  width : Option SlotWidth
  listUrl : String
  deriving DecidableEq

namespace StatusClaim

/-- The type of a claim. -/
def typeName : String := "BitstringStatusListEntry"

/-- The width of the slots; a claim that states none speaks of slots of one bit. -/
def slotWidth (c : StatusClaim) : SlotWidth := c.width.getD .one

/-- The index of the slot that a claim points at. -/
def index (c : StatusClaim) : Except DocumentError UInt64 :=
  let cs := c.indexText.toList
  match if cs.all isDigit then value? 10 cs else none with
  | some n =>
    if n < 18446744073709551616 then .ok (.ofNat n) else .error (.invalidIndex c.indexText)
  | none => .error (.invalidIndex c.indexText)

/-- Refuses a claim of another type. -/
def ensureType (c : StatusClaim) : Except DocumentError Unit :=
  if c.type = typeName then .ok () else .error (.unexpectedType typeName c.type)

/-- The name and the number of fields of a claim. -/
def shape : Shape := ⟨"BitstringStatusListEntry", 6⟩

/-- Reads a claim from the members of an object. -/
def ofMembers (ms : Json.Members) : Except ReadError StatusClaim := do
  let id ← ms.optional "id" Reader.string
  let listUrl ← ms.field? "statusListCredential" Reader.string
  let indexText ← ms.field? "statusListIndex" Reader.string
  let purpose ← ms.field? "statusPurpose" Purpose.ofJson
  let width ← ms.optional "statusSize" SlotWidth.ofJson
  let type ← ms.field? "type" Reader.string
  let type ← require "type" type
  let purpose ← require "statusPurpose" purpose
  let indexText ← require "statusListIndex" indexText
  let listUrl ← require "statusListCredential" listUrl
  return ⟨id, type, purpose, indexText, width, listUrl⟩

/-- Reads a claim from the items of an array. -/
def ofItems (items : List Json) : Except ReadError StatusClaim := do
  let id ← Shape.optional items 0 Reader.string
  let type ← shape.item items 1 Reader.string
  let purpose ← shape.item items 2 Purpose.ofJson
  let indexText ← shape.item items 3 Reader.string
  let width ← Shape.optional items 4 SlotWidth.ofJson
  let listUrl ← shape.item items 5 Reader.string
  shape.close items
  return ⟨id, type, purpose, indexText, width, listUrl⟩

/-- Reads a claim from a document. -/
def ofJson : Reader StatusClaim := shape.read ofMembers ofItems

/-- A claim in a document. -/
def toJson (c : StatusClaim) : Json :=
  Json.record
    [("id", c.id.map .string), ("type", some (.string c.type)),
      ("statusPurpose", some c.purpose.toJson), ("statusListIndex", some (.string c.indexText)),
      ("statusSize", c.width.map SlotWidth.toJson),
      ("statusListCredential", some (.string c.listUrl))]

end StatusClaim

end StatusRegistry

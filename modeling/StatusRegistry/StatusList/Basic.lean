import StatusRegistry.Bitstring.EncodedList
import StatusRegistry.StatusList.Request
import StatusRegistry.Timestamp

/-!
# Status lists

One compressed bitstring shared by a group of credentials: those of one issuer, purpose and width.
Slots are handed out in order and never again, so the number of used slots is also the next index.

* Parameters are checked when a list is made, and not again when it is read back.
* Every change stamps the list with the time at which it is made.
* `setStatus` asks first whether the index lies in the list, then whether the code fits, and
  changes nothing if it fails.
-/

set_option autoImplicit false

namespace StatusRegistry

/-- Why a status list cannot do what it is asked to. -/
inductive ListError where
  /-- A value breaks a rule of the list. -/
  | validation (cause : ValidationError)
  /-- The text of the bitstring cannot be read or written. -/
  | codec (cause : CodecError)
  /-- An entry was brought to a list that it does not belong to. -/
  | mismatch (expected actual : ListId)
  deriving DecidableEq, Repr

/-- The wording of a list error. -/
def ListError.message : ListError → String
  | validation cause => cause.message
  | codec cause => "bitstring codec error: " ++ cause.message
  | mismatch expected actual =>
    "status entry belongs to list " ++ expected.text ++ ", not " ++ actual.text

/-- A status list. -/
structure StatusList where
  id : ListId
  issuer : IssuerId
  purpose : Purpose
  width : SlotWidth
  /-- The number of slots, fixed when the list is made. -/
  capacity : UInt64
  /-- The number of slots handed out, which is also the next free index. -/
  used : UInt64
  encodedList : String
  /-- Milliseconds from the making of the list to the end of a published document. -/
  ttl : Option UInt64
  metadata : Option Json.Members
  createdAt : Timestamp
  updatedAt : Timestamp

namespace StatusList

/-! ## Making a list -/

/-- The text of the bitstring in which all slots hold 0. -/
def blankText (capacity : UInt64) (width : SlotWidth) : String :=
  Bitstring.encode (Bitstring.zeroed capacity width)

/-- The list that a request asks for, with all slots at 0. -/
def create (r : ListRequest) (id : ListId) (now : Timestamp) : Except ListError StatusList :=
  match r.plan with
  | .error e => .error (.validation e)
  | .ok p =>
    .ok
      { id, issuer := r.issuer, purpose := r.purpose, width := p.width, capacity := p.capacity,
        used := 0, encodedList := blankText p.capacity p.width, ttl := p.ttl,
        metadata := r.metadata, createdAt := now, updatedAt := now }

/-! ## Slots -/

/-- Whether another slot can be handed out. -/
def hasRoom (l : StatusList) : Bool := decide (l.used < l.capacity)

/-- Hands out the next slot: its index and the list without it, unless the list is full. -/
def takeSlot (l : StatusList) (now : Timestamp) : Option (UInt64 × StatusList) :=
  if l.hasRoom then some (l.used, { l with used := l.used + 1, updatedAt := now }) else none

/-- Refuses an index outside the list. -/
def checkIndex (l : StatusList) (index : UInt64) : Except ValidationError Unit :=
  if index < l.capacity then .ok () else .error (.indexOutOfRange index.toNat l.capacity.toNat)

/-- The code in a slot. -/
def statusAt (l : StatusList) (index : UInt64) : Except ListError UInt8 :=
  match l.checkIndex index with
  | .error e => .error (.validation e)
  | .ok _ =>
    match Bitstring.decode l.encodedList with
    | .error e => .error (.codec e)
    | .ok data =>
      match Bitstring.readSlot data index.toNat l.width with
      | .error e => .error (.codec e)
      | .ok code => .ok code

/-- The list with another text for its bitstring. -/
def withEncodedList (l : StatusList) (text : String) (now : Timestamp) : StatusList :=
  { l with encodedList := text, updatedAt := now }

/-- Stores a code in a slot: the code as stored, and the list with it. -/
def setStatus (l : StatusList) (index : UInt64) (status : UInt32) (now : Timestamp) :
    Except ListError (UInt8 × StatusList) :=
  match l.checkIndex index with
  | .error e => .error (.validation e)
  | .ok _ =>
    match l.width.check status with
    | .error e => .error (.validation e)
    | .ok code =>
      match Bitstring.decode l.encodedList with
      | .error e => .error (.codec e)
      | .ok data =>
        match Bitstring.writeSlot data index.toNat l.width code with
        | .error e => .error (.codec e)
        | .ok data => .ok (code, l.withEncodedList (Bitstring.encode data) now)

/-! ## Settings -/

/-- The list with another lifetime. -/
def setTtl (l : StatusList) (ttl : Option Int64) (now : Timestamp) :
    Except ValidationError StatusList :=
  match planTtl ttl with
  | .error e => .error e
  | .ok ttl => .ok { l with ttl, updatedAt := now }

/-- The list with other annotations. -/
def setMetadata (l : StatusList) (metadata : Option Json.Members) (now : Timestamp) : StatusList :=
  { l with metadata, updatedAt := now }

/-- The time from which a published document is no longer valid. -/
def validUntil (l : StatusList) : Option Timestamp :=
  match l.ttl with
  | some ttl => l.createdAt.addMillis? ttl.toNat
  | none => none

/-! ## Documents -/

/-- The name and the number of fields of a list. -/
def shape : Shape := ⟨"StatusListRecord", 11⟩

/-- Reads a list from the members of an object. -/
def ofMembers (ms : Json.Members) : Except ReadError StatusList := do
  let createdAt ← ms.field? "createdAt" Timestamp.ofJson
  let encodedList ← ms.field? "encodedList" Reader.string
  let id ← ms.field? "id" ListId.ofJson
  let issuer ← ms.field? "issuerId" IssuerId.ofJson
  let metadata ← ms.optional "metadata" Reader.members
  let purpose ← ms.field? "purpose" Purpose.ofJson
  let width ← ms.field? "statusSize" SlotWidth.ofJson
  let capacity ← ms.field? "totalEntries" Reader.u64
  let ttl ← ms.optional "ttl" Reader.u64
  let updatedAt ← ms.field? "updatedAt" Timestamp.ofJson
  let used ← ms.field? "usedEntries" Reader.u64
  let id ← require "id" id
  let issuer ← require "issuerId" issuer
  let purpose ← require "purpose" purpose
  let width ← require "statusSize" width
  let capacity ← require "totalEntries" capacity
  let used ← require "usedEntries" used
  let encodedList ← require "encodedList" encodedList
  let createdAt ← require "createdAt" createdAt
  let updatedAt ← require "updatedAt" updatedAt
  return ⟨id, issuer, purpose, width, capacity, used, encodedList, ttl, metadata, createdAt,
    updatedAt⟩

/-- Reads a list from the items of an array. -/
def ofItems (items : List Json) : Except ReadError StatusList := do
  let id ← shape.item items 0 ListId.ofJson
  let issuer ← shape.item items 1 IssuerId.ofJson
  let purpose ← shape.item items 2 Purpose.ofJson
  let width ← shape.item items 3 SlotWidth.ofJson
  let capacity ← shape.item items 4 Reader.u64
  let used ← shape.item items 5 Reader.u64
  let encodedList ← shape.item items 6 Reader.string
  let ttl ← Shape.optional items 7 Reader.u64
  let metadata ← Shape.optional items 8 Reader.members
  let createdAt ← shape.item items 9 Timestamp.ofJson
  let updatedAt ← shape.item items 10 Timestamp.ofJson
  shape.close items
  return ⟨id, issuer, purpose, width, capacity, used, encodedList, ttl, metadata, createdAt,
    updatedAt⟩

/-- Reads a list from a document. -/
def ofJson : Reader StatusList := shape.read ofMembers ofItems

/-- A list in a document. -/
def toJson (l : StatusList) : Json :=
  Json.record
    [("id", some l.id.toJson), ("issuerId", some l.issuer.toJson),
      ("purpose", some l.purpose.toJson), ("statusSize", some l.width.toJson),
      ("totalEntries", some (.nat l.capacity.toNat)), ("usedEntries", some (.nat l.used.toNat)),
      ("encodedList", some (.string l.encodedList)),
      ("ttl", l.ttl.map fun n => .nat n.toNat), ("metadata", l.metadata.map .object),
      ("createdAt", some l.createdAt.toJson), ("updatedAt", some l.updatedAt.toJson)]

end StatusList

end StatusRegistry

import StatusRegistry.StatusList.Basic

/-!
# Status entries

An entry ties a credential to one slot of one list.  It repeats the width and the purpose of the
list, and the code in its slot, so that a status is read without the list.

* `StatusEntry.apply` writes a code into the slot and into the entry, or into neither.
* `UpdateResult` tells the outcome of a change: a refusal is an outcome and not an error.
-/

set_option autoImplicit false

namespace StatusRegistry

/-! ## Entries -/

/-- A request to record a slot. -/
structure EntryRequest where
  credential : CredentialId
  list : ListId
  /-- The slot asked for; one that is taken by now is moved up to the next free one. -/
  index : UInt64
  width : SlotWidth
  purpose : Purpose
  deriving DecidableEq

/-- The slot of a credential and the code in it. -/
structure StatusEntry where
  id : EntryId
  credential : CredentialId
  list : ListId
  index : UInt64
  width : SlotWidth
  purpose : Purpose
  status : UInt8
  createdAt : Timestamp
  updatedAt : Timestamp
  deriving DecidableEq

namespace StatusEntry

/-- A new entry, with code 0. -/
def create (r : EntryRequest) (id : EntryId) (now : Timestamp) : StatusEntry :=
  { id, credential := r.credential, list := r.list, index := r.index, width := r.width,
    purpose := r.purpose, status := 0, createdAt := now, updatedAt := now }

/-- The label of the code. -/
def label (e : StatusEntry) : String := e.purpose.label e.status

/-- Writes a code into the slot of an entry: the entry and the list with it. -/
def apply (e : StatusEntry) (l : StatusList) (status : UInt32) (now : Timestamp) :
    Except ListError (StatusEntry × StatusList) :=
  if e.list ≠ l.id then .error (.mismatch e.list l.id)
  else
    match l.setStatus e.index status now with
    | .error err => .error err
    | .ok (code, l) => .ok ({ e with status := code, updatedAt := l.updatedAt }, l)

end StatusEntry

/-! ## Changes -/

/-- A request to change the status of a credential. -/
structure StatusUpdate where
  credential : CredentialId
  status : UInt32
  purpose : Purpose
  /-- The operator's reason, which is not stored. -/
  reason : Option String
  deriving DecidableEq

/-- The outcome of a change. -/
structure UpdateResult where
  success : Bool
  entry : Option StatusEntry
  error : Option String
  deriving DecidableEq

namespace UpdateResult

/-- The change was made. -/
def updated (e : StatusEntry) : UpdateResult := ⟨true, some e, none⟩

/-- The change was refused. -/
def failed (reason : String) : UpdateResult := ⟨false, none, some reason⟩

/-- The credential has no entry for the purpose. -/
def entryNotFound (credential : CredentialId) (purpose : Purpose) : UpdateResult :=
  failed ("Status entry not found for credential " ++ credential.text ++ " (" ++ purpose.text ++
    ")")

/-- The list of the entry is gone. -/
def listNotFound (list : ListId) : UpdateResult :=
  failed ("Status list not found: " ++ list.text)

/-- Whether a list of characters stands somewhere in another. -/
def occursIn (part : List Char) : List Char → Bool
  | [] => part.isEmpty
  | c :: cs => part.isPrefixOf (c :: cs) || occursIn part cs

/-- Whether a change was refused because a record is missing, as far as the reason tells. -/
def isNotFound (r : UpdateResult) : Bool :=
  !r.success &&
    match r.error with
    | some reason => occursIn "not found".toList reason.toList
    | none => false

end UpdateResult

/-! ## Documents -/

namespace EntryRequest

/-- The name and the number of fields of a request. -/
def shape : Shape := ⟨"NewStatusEntry", 5⟩

/-- Reads a request from the members of an object. -/
def ofMembers (ms : Json.Members) : Except ReadError EntryRequest := do
  let credential ← ms.field? "credentialId" CredentialId.ofJson
  let purpose ← ms.field? "purpose" Purpose.ofJson
  let list ← ms.field? "statusListId" ListId.ofJson
  let index ← ms.field? "statusListIndex" Reader.u64
  let width ← ms.field? "statusSize" SlotWidth.ofJson
  let credential ← require "credentialId" credential
  let list ← require "statusListId" list
  let index ← require "statusListIndex" index
  let width ← require "statusSize" width
  let purpose ← require "purpose" purpose
  return ⟨credential, list, index, width, purpose⟩

/-- Reads a request from the items of an array. -/
def ofItems (items : List Json) : Except ReadError EntryRequest := do
  let credential ← shape.item items 0 CredentialId.ofJson
  let list ← shape.item items 1 ListId.ofJson
  let index ← shape.item items 2 Reader.u64
  let width ← shape.item items 3 SlotWidth.ofJson
  let purpose ← shape.item items 4 Purpose.ofJson
  shape.close items
  return ⟨credential, list, index, width, purpose⟩

/-- Reads a request from a document. -/
def ofJson : Reader EntryRequest := shape.read ofMembers ofItems

/-- A request in a document. -/
def toJson (r : EntryRequest) : Json :=
  Json.record
    [("credentialId", some r.credential.toJson), ("statusListId", some r.list.toJson),
      ("statusListIndex", some (.nat r.index.toNat)), ("statusSize", some r.width.toJson),
      ("purpose", some r.purpose.toJson)]

end EntryRequest

namespace StatusEntry

/-- The name and the number of fields of an entry. -/
def shape : Shape := ⟨"StatusEntry", 9⟩

/-- Reads an entry from the members of an object. -/
def ofMembers (ms : Json.Members) : Except ReadError StatusEntry := do
  let createdAt ← ms.field? "createdAt" Timestamp.ofJson
  let credential ← ms.field? "credentialId" CredentialId.ofJson
  let status ← ms.field? "currentStatus" Reader.u8
  let id ← ms.field? "id" EntryId.ofJson
  let purpose ← ms.field? "purpose" Purpose.ofJson
  let list ← ms.field? "statusListId" ListId.ofJson
  let index ← ms.field? "statusListIndex" Reader.u64
  let width ← ms.field? "statusSize" SlotWidth.ofJson
  let updatedAt ← ms.field? "updatedAt" Timestamp.ofJson
  let id ← require "id" id
  let credential ← require "credentialId" credential
  let list ← require "statusListId" list
  let index ← require "statusListIndex" index
  let width ← require "statusSize" width
  let purpose ← require "purpose" purpose
  let status ← require "currentStatus" status
  let createdAt ← require "createdAt" createdAt
  let updatedAt ← require "updatedAt" updatedAt
  return ⟨id, credential, list, index, width, purpose, status, createdAt, updatedAt⟩

/-- Reads an entry from the items of an array. -/
def ofItems (items : List Json) : Except ReadError StatusEntry := do
  let id ← shape.item items 0 EntryId.ofJson
  let credential ← shape.item items 1 CredentialId.ofJson
  let list ← shape.item items 2 ListId.ofJson
  let index ← shape.item items 3 Reader.u64
  let width ← shape.item items 4 SlotWidth.ofJson
  let purpose ← shape.item items 5 Purpose.ofJson
  let status ← shape.item items 6 Reader.u8
  let createdAt ← shape.item items 7 Timestamp.ofJson
  let updatedAt ← shape.item items 8 Timestamp.ofJson
  shape.close items
  return ⟨id, credential, list, index, width, purpose, status, createdAt, updatedAt⟩

/-- Reads an entry from a document. -/
def ofJson : Reader StatusEntry := shape.read ofMembers ofItems

/-- An entry in a document. -/
def toJson (e : StatusEntry) : Json :=
  Json.record
    [("id", some e.id.toJson), ("credentialId", some e.credential.toJson),
      ("statusListId", some e.list.toJson), ("statusListIndex", some (.nat e.index.toNat)),
      ("statusSize", some e.width.toJson), ("purpose", some e.purpose.toJson),
      ("currentStatus", some (.nat e.status.toNat)), ("createdAt", some e.createdAt.toJson),
      ("updatedAt", some e.updatedAt.toJson)]

end StatusEntry

namespace StatusUpdate

/-- The name and the number of fields of a request for a change. -/
def shape : Shape := ⟨"StatusUpdate", 4⟩

/-- Reads a request for a change from the members of an object. -/
def ofMembers (ms : Json.Members) : Except ReadError StatusUpdate := do
  let credential ← ms.field? "credentialId" CredentialId.ofJson
  let purpose ← ms.field? "purpose" Purpose.ofJson
  let reason ← ms.optional "reason" Reader.string
  let status ← ms.field? "status" Reader.u32
  let credential ← require "credentialId" credential
  let status ← require "status" status
  let purpose ← require "purpose" purpose
  return ⟨credential, status, purpose, reason⟩

/-- Reads a request for a change from the items of an array. -/
def ofItems (items : List Json) : Except ReadError StatusUpdate := do
  let credential ← shape.item items 0 CredentialId.ofJson
  let status ← shape.item items 1 Reader.u32
  let purpose ← shape.item items 2 Purpose.ofJson
  let reason ← Shape.optional items 3 Reader.string
  shape.close items
  return ⟨credential, status, purpose, reason⟩

/-- Reads a request for a change from a document. -/
def ofJson : Reader StatusUpdate := shape.read ofMembers ofItems

/-- A request for a change in a document. -/
def toJson (u : StatusUpdate) : Json :=
  Json.record
    [("credentialId", some u.credential.toJson), ("status", some (.nat u.status.toNat)),
      ("purpose", some u.purpose.toJson), ("reason", u.reason.map .string)]

end StatusUpdate

namespace UpdateResult

/-- The name and the number of fields of an outcome. -/
def shape : Shape := ⟨"StatusUpdateResult", 3⟩

/-- Reads an outcome from the members of an object. -/
def ofMembers (ms : Json.Members) : Except ReadError UpdateResult := do
  let error ← ms.optional "error" Reader.string
  let entry ← ms.optional "statusEntry" StatusEntry.ofJson
  let success ← ms.field? "success" Reader.boolean
  let success ← require "success" success
  return ⟨success, entry, error⟩

/-- Reads an outcome from the items of an array. -/
def ofItems (items : List Json) : Except ReadError UpdateResult := do
  let success ← shape.item items 0 Reader.boolean
  let entry ← Shape.optional items 1 StatusEntry.ofJson
  let error ← Shape.optional items 2 Reader.string
  shape.close items
  return ⟨success, entry, error⟩

/-- Reads an outcome from a document. -/
def ofJson : Reader UpdateResult := shape.read ofMembers ofItems

/-- An outcome in a document. -/
def toJson (r : UpdateResult) : Json :=
  Json.record
    [("success", some (.bool r.success)), ("statusEntry", r.entry.map StatusEntry.toJson),
      ("error", r.error.map .string)]

end UpdateResult

end StatusRegistry

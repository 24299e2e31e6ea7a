import StatusRegistry.Store.Request
import StatusRegistry.Store.Statement

/-!
# The store in a database

How each operation of a store is carried out by statements.

* To hand out a slot, the row of the list is locked, and the list and the new entry are written
  before the transaction is committed; a second entry is told by the unique key.
* To change a status, the row of the entry is locked, then that of its list, and both are written
  before the transaction is committed.
* A session that ends without a commit leaves the database as it was.
-/

set_option autoImplicit false

namespace StatusRegistry

namespace Database

open Session

/-- A session that may end with a storage error. -/
abbrev Work (α : Type) := ExceptT StoreError Session α

/-- The list of a row, if there is a row. -/
def listOfRow : Option ListRow → Except StoreError (Option StatusList)
  | none => .ok none
  | some r => r.toList.map some

/-- The entry of a row, if there is a row. -/
def entryOfRow : Option EntryRow → Except StoreError (Option StatusEntry)
  | none => .ok none
  | some r => r.toEntry.map some

/-- Reads a list. -/
def selectList (list : ListId) (lock : Bool) : Work (Option StatusList) := do
  lift (listOfRow (← query (.selectList list.uuid lock)))

/-- Makes a list and stores it. -/
def createList (r : ListRequest) (stamp : Stamp) : Work StatusList := do
  let l ← lift ((StatusList.create r ⟨stamp.fresh⟩ stamp.now).mapError .rejected)
  let row ← lift (ListRow.ofList l)
  query (.insertList row)
  return l

/-- Reads the first list of a group with room. -/
def findAvailable (issuer : IssuerId) (purpose : Purpose) (width : SlotWidth) :
    Work (Option StatusList) := do
  lift (listOfRow (← query (.selectAvailable issuer.text purpose.text (widthColumn width))))

/-- Stores the settings of a list. -/
def updateList (l : StatusList) : Work StatusList := do
  let ttl ← lift (optionalColumnOf l.ttl)
  match ← query (.updateSettings l.id.uuid ttl (l.metadata.map .object) l.updatedAt.instant) with
  | none => throw (.listNotFound l.id)
  | some row => lift row.toList

/-- Stores a new entry; that there is one already is told by the unique key. -/
def insertEntry (e : StatusEntry) : Work Unit := do
  let row ← lift (EntryRow.ofEntry e)
  ExceptT.mk (.send (.insertEntry row) fun answer => .done (answer.mapError fun fault =>
    if fault.isUniqueViolation then .duplicate e.credential e.purpose else .database fault))

/-- Records an entry and hands out a slot. -/
def createEntry (r : EntryRequest) (stamp : Stamp) : Work StatusEntry := do
  query .begin
  match ← selectList r.list true with
  | none => throw (.listNotFound r.list)
  | some l =>
    let (e, l) ← lift (allocate l r stamp)
    let used ← lift (columnOf l.used)
    query (.updateUsed l.id.uuid used l.updatedAt.instant)
    insertEntry e
    query .commit
    return e

/-- Reads the entry of a credential for a purpose. -/
def findEntry (credential : CredentialId) (purpose : Purpose) (lock : Bool) :
    Work (Option StatusEntry) := do
  lift (entryOfRow (← query (.selectEntry credential.text purpose.text lock)))

/-- Changes a status in an entry and in its list, or tells what is missing. -/
def changeStatus (u : StatusUpdate) (now : Timestamp) : Work UpdateResult := do
  query .begin
  match ← findEntry u.credential u.purpose true with
  | none => return .entryNotFound u.credential u.purpose
  | some e =>
    match ← selectList e.list true with
    | none => return .listNotFound e.list
    | some l =>
      let (e, l) ← lift ((e.apply l u.status now).mapError .rejected)
      query (.updateBits l.id.uuid l.encodedList l.updatedAt.instant)
      query (.updateStatus e.id.uuid (.ofNat e.status.toNat) e.updatedAt.instant)
      query .commit
      return .updated e

/-- Changes a status; an error becomes a refusal. -/
def updateStatus (u : StatusUpdate) (now : Timestamp) : Session UpdateResult := do
  match ← (changeStatus u now).run with
  | .ok result => return result
  | .error e => return .failed e.message

/-- The session that carries out an operation. -/
def session (stamp : Stamp) : (q : StoreRequest) → Session q.Answer
  | .createList r => (createList r stamp).run
  | .findList list => (selectList list false).run
  | .findAvailable issuer purpose width => (findAvailable issuer purpose width).run
  | .updateList l => (updateList l).run
  | .createEntry r => (createEntry r stamp).run
  | .findEntry credential purpose => (findEntry credential purpose false).run
  | .updateStatus u => updateStatus u stamp.now

end Database

end StatusRegistry

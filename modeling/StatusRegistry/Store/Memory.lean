import Std.Data.HashMap
import StatusRegistry.Store.Request

/-!
# The store in memory

Lists, entries, and the entry of each credential and purpose, held in three tables.  Every
operation works on all three at once.

* `Memory.answer` answers each operation;
* of two lists the older one is the one with the lesser time of making, and with the lesser UUID
  at the same time, so `findAvailable` does not depend on the order of the table.
-/

set_option autoImplicit false

namespace StatusRegistry

/-- The tables of a store in memory. -/
structure Memory where
  lists : Std.HashMap ListId StatusList
  entries : Std.HashMap EntryId StatusEntry
  byCredential : Std.HashMap (CredentialId × Purpose) EntryId

namespace StatusList

/-- Whether a list comes before another in the order in which lists are filled. -/
def before (a b : StatusList) : Bool :=
  decide (a.createdAt < b.createdAt) ||
    (decide (a.createdAt = b.createdAt) && decide (a.id.uuid.toNat < b.id.uuid.toNat))

/-- Whether a list belongs to a group. -/
def inGroup (l : StatusList) (issuer : IssuerId) (purpose : Purpose) (width : SlotWidth) : Bool :=
  decide (l.issuer = issuer) && decide (l.purpose = purpose) && decide (l.width = width)

/-- The first of two lists, of which one may be missing. -/
def first (best : Option StatusList) (l : StatusList) : Option StatusList :=
  match best with
  | none => some l
  | some b => if l.before b then some l else some b

end StatusList

namespace Memory

/-- The store that holds nothing. -/
def empty : Memory := ⟨∅, ∅, ∅⟩

/-! ## Reading -/

/-- The list of an identifier. -/
def findList (m : Memory) (list : ListId) : Option StatusList := m.lists[list]?

/-- The entry of a credential for a purpose. -/
def findEntry (m : Memory) (credential : CredentialId) (purpose : Purpose) : Option StatusEntry :=
  match m.byCredential[(credential, purpose)]? with
  | some id => m.entries[id]?
  | none => none

/-- The first list of a group that has room. -/
def findAvailable (m : Memory) (issuer : IssuerId) (purpose : Purpose) (width : SlotWidth) :
    Option StatusList :=
  m.lists.fold
    (fun best _ l =>
      if l.inGroup issuer purpose width && l.hasRoom then StatusList.first best l else best)
    none

/-! ## Writing -/

/-- The store with a list in the place of its identifier. -/
def putList (m : Memory) (l : StatusList) : Memory := { m with lists := m.lists.insert l.id l }

/-- The store with an entry in the place of its identifier. -/
def putEntry (m : Memory) (e : StatusEntry) : Memory :=
  { m with entries := m.entries.insert e.id e }

/-- The store with an entry as the one of its credential and purpose. -/
def index (m : Memory) (e : StatusEntry) : Memory :=
  { m with byCredential := m.byCredential.insert (e.credential, e.purpose) e.id }

/-- Makes a list and stores it. -/
def createList (m : Memory) (r : ListRequest) (stamp : Stamp) :
    Except StoreError StatusList × Memory :=
  match StatusList.create r ⟨stamp.fresh⟩ stamp.now with
  | .error e => (.error (.rejected e), m)
  | .ok l => (.ok l, m.putList l)

/-- Stores the settings of a list. -/
def updateList (m : Memory) (l : StatusList) : Except StoreError StatusList × Memory :=
  match m.lists[l.id]? with
  | none => (.error (.listNotFound l.id), m)
  | some stored =>
    let stored := { stored with ttl := l.ttl, metadata := l.metadata, updatedAt := l.updatedAt }
    (.ok stored, { m with lists := m.lists.insert l.id stored })

/-- What an entry request comes to: the entry and the list with its slot handed out.  The list is
looked for first, then its room is checked, then a second entry is refused. -/
def planEntry (m : Memory) (r : EntryRequest) (stamp : Stamp) :
    Except StoreError (StatusEntry × StatusList) :=
  match m.lists[r.list]? with
  | none => .error (.listNotFound r.list)
  | some l =>
    match allocate l r stamp with
    | .error e => .error e
    | .ok (e, l) =>
      if m.byCredential.contains (r.credential, r.purpose) then
        .error (.duplicate r.credential r.purpose)
      else .ok (e, l)

/-- Records an entry and hands out a slot. -/
def createEntry (m : Memory) (r : EntryRequest) (stamp : Stamp) :
    Except StoreError StatusEntry × Memory :=
  match m.planEntry r stamp with
  | .error e => (.error e, m)
  | .ok (e, l) => (.ok e, ((m.putList l).index e).putEntry e)

/-- Changes a status in an entry and in its list. -/
def updateStatus (m : Memory) (u : StatusUpdate) (now : Timestamp) : UpdateResult × Memory :=
  match m.findEntry u.credential u.purpose with
  | none => (.entryNotFound u.credential u.purpose, m)
  | some e =>
    match m.lists[e.list]? with
    | none => (.listNotFound e.list, m)
    | some l =>
      match e.apply l u.status now with
      | .error err => (.failed err.message, m)
      | .ok (e, l) => (.updated e, (m.putList l).putEntry e)

/-! ## Operations -/

/-- Answers an operation. -/
def answer (m : Memory) (stamp : Stamp) : (q : StoreRequest) → q.Answer × Memory
  | .createList r => m.createList r stamp
  | .findList list => (.ok (m.findList list), m)
  | .findAvailable issuer purpose width => (.ok (m.findAvailable issuer purpose width), m)
  | .updateList l => m.updateList l
  | .createEntry r => m.createEntry r stamp
  | .findEntry credential purpose => (.ok (m.findEntry credential purpose), m)
  | .updateStatus u => m.updateStatus u stamp.now

end Memory

end StatusRegistry

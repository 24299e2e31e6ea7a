import StatusRegistry.Config
import StatusRegistry.Service.Error
import StatusRegistry.Service.Program

/-!
# The service of lists

Making, choosing and changing status lists.  A group is all lists of one issuer, purpose and
width, and `findOrCreate` is the one place that decides which list of a group takes the next slot.

* Two callers that both find a group full may each make a list.  One of the lists then stays
  partly unused, but no slot is handed out twice.
-/

set_option autoImplicit false

namespace StatusRegistry

/-- A program that may end with a service error. -/
abbrev Service (α : Type) := ExceptT ServiceError Program α

namespace Service

variable {α : Type}

/-- A program whose result may be an error of the store, in the terms of a service. -/
def ofStore (p : Program (Except StoreError α)) : Service α :=
  ExceptT.mk (p.bind fun result => .done (result.mapError .ofStore))

/-- Goes on with a value, or ends with an error. -/
def check (result : Except ValidationError α) : Service α :=
  ExceptT.mk (.done (result.mapError .validation))

/-- The request with what it leaves open filled in from the configuration. -/
def withDefaults (c : Config) (r : ListRequest) : ListRequest :=
  { r with capacity := some (r.capacity.getD c.capacity), ttl := r.ttl.or c.ttl }

/-- Makes a list and stores it. -/
def createList (c : Config) (r : ListRequest) : Service StatusList := do
  let r := withDefaults c r
  let _ ← check r.plan
  ofStore (.request (.createList r))

/-- A request for a list of a group. -/
def groupRequest (issuer : IssuerId) (purpose : Purpose) (width : SlotWidth) : ListRequest :=
  { ListRequest.simple issuer purpose with width := some (.ofNat width.bits) }

/-- A list of a group with room, which is made if there is none. -/
def findOrCreate (c : Config) (issuer : IssuerId) (purpose : Purpose) (width : SlotWidth) :
    Service StatusList := do
  match ← ofStore (.request (.findAvailable issuer purpose width)) with
  | some l => return l
  | none => createList c (groupRequest issuer purpose width)

/-- Reads a list, which has to be there. -/
def getList (list : ListId) : Service StatusList := do
  match ← ofStore (.request (.findList list)) with
  | some l => return l
  | none => throw (.listNotFound list)

/-- The slot that a list would hand out next, if it has room. -/
def nextIndex (list : ListId) : Service (Option UInt64) := do
  let l ← getList list
  return if l.hasRoom then some l.used else none

/-- Records an entry and hands out a slot. -/
def createEntry (r : EntryRequest) : Service StatusEntry := ofStore (.request (.createEntry r))

/-- Reads the entry of a credential for a purpose. -/
def findEntry (credential : CredentialId) (purpose : Purpose) : Service (Option StatusEntry) :=
  ofStore (.request (.findEntry credential purpose))

/-- Reads a list. -/
def findList (list : ListId) : Service (Option StatusList) :=
  ofStore (.request (.findList list))

/-- Changes the lifetime and the annotations of a list. -/
def updateSettings (list : ListId) (ttl : Option Int64) (metadata : Option Json.Members) :
    Service StatusList := do
  let l ← getList list
  let now ← ExceptT.lift Program.now
  let l ← check (l.setTtl ttl now)
  ofStore (.request (.updateList (l.setMetadata metadata now)))

/-- Changes a status; every failure is an outcome. -/
def updateStatus (u : StatusUpdate) : Program UpdateResult := .request (.updateStatus u)

end Service

end StatusRegistry

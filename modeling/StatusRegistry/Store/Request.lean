import StatusRegistry.Store.Error

/-!
# What a store can be asked

The seven operations of a store, each with the type of its answer.  A store that answers them in
one piece each is a *backend*; the services speak to any backend in these terms.

* `checkAllocation` is the check that all backends make before they hand out a slot.
-/

set_option autoImplicit false

namespace StatusRegistry

/-- What an operation is given from outside: the time, and a UUID that was never used. -/
structure Stamp where
  now : Timestamp
  fresh : Uuid
  deriving DecidableEq

/-- An operation of a store. -/
inductive StoreRequest where
  /-- Make a list and store it. -/
  | createList (request : ListRequest)
  | findList (list : ListId)
  /-- The oldest list of a group that has room. -/
  | findAvailable (issuer : IssuerId) (purpose : Purpose) (width : SlotWidth)
  /-- Store the lifetime, the annotations and the time of change of a list, and nothing else. -/
  | updateList (list : StatusList)
  /-- Record an entry and hand out the next slot of its list, in one piece. -/
  | createEntry (request : EntryRequest)
  | findEntry (credential : CredentialId) (purpose : Purpose)
  /-- Change a status in an entry and in its list, in one piece. -/
  | updateStatus (update : StatusUpdate)

/-- The answer to an operation.  A change of a status reports every failure as an outcome. -/
abbrev StoreRequest.Answer : StoreRequest → Type
  | createList _ => Except StoreError StatusList
  | findList _ => Except StoreError (Option StatusList)
  | findAvailable _ _ _ => Except StoreError (Option StatusList)
  | updateList _ => Except StoreError StatusList
  | createEntry _ => Except StoreError StatusEntry
  | findEntry _ _ => Except StoreError (Option StatusEntry)
  | updateStatus _ => UpdateResult

/-- Checks that a list can hand out a slot for an entry: of the same purpose and width, with room,
and the slot asked for not past the next one. -/
def checkAllocation (l : StatusList) (r : EntryRequest) : Except StoreError Unit :=
  if l.purpose ≠ r.purpose ∨ l.width ≠ r.width then .error (.incompatible l.id)
  else if !l.hasRoom then .error (.listFull l.id)
  else if l.used < r.index then .error (.indexConflict l.id r.index.toNat)
  else .ok ()

/-- Hands out a slot for an entry: the entry and the list without the slot. -/
def allocate (l : StatusList) (r : EntryRequest) (stamp : Stamp) :
    Except StoreError (StatusEntry × StatusList) :=
  match checkAllocation l r with
  | .error e => .error e
  | .ok _ =>
    match l.takeSlot stamp.now with
    | none => .error (.listFull l.id)
    | some (index, l) => .ok (.create { r with index } ⟨stamp.fresh⟩ stamp.now, l)

end StatusRegistry

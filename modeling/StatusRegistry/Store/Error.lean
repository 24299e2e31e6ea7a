import StatusRegistry.StatusEntry

/-!
# Storage errors

Why a store does not do what it is asked to.

* `StoreError.isRace` tells the errors that another attempt may not meet again: the list that was
  chosen filled up, or its next slot moved.
-/

set_option autoImplicit false

namespace StatusRegistry

open Text

/-- Why a database does not answer. -/
inductive DatabaseFault where
  /-- The server turns a statement down, with a state code of five characters. -/
  | refused (code message : String)
  /-- No connection to the server became free in time. -/
  | noConnection
  deriving DecidableEq, Repr

namespace DatabaseFault

/-- The wording of a database fault. -/
def message : DatabaseFault → String
  | refused _ message => "error returned from database: " ++ message
  | noConnection => "pool timed out while waiting for an open connection"

/-- The statement would store a second row under a unique key. -/
def isUniqueViolation : DatabaseFault → Bool
  | refused code _ => code == "23505"
  | noConnection => false

end DatabaseFault

/-- The two tables of a store. -/
inductive TableName where
  | lists
  | entries
  deriving DecidableEq, Repr

/-- The name of a table. -/
def TableName.text : TableName → String
  | lists => "status_lists"
  | entries => "status_entries"

/-- Why a store does not do what it is asked to. -/
inductive StoreError where
  | listNotFound (list : ListId)
  /-- The credential has an entry for the purpose. -/
  | duplicate (credential : CredentialId) (purpose : Purpose)
  /-- The slot lies past the next free one. -/
  | indexConflict (list : ListId) (requested : Nat)
  | listFull (list : ListId)
  /-- The purpose or the width of the entry is not that of the list. -/
  | incompatible (list : ListId)
  /-- The list or the entry refuses the change. -/
  | rejected (cause : ListError)
  | database (fault : DatabaseFault)
  /-- A number is too great for its column. -/
  | columnOverflow (value : Nat)
  /-- A row that stands for no record. -/
  | corrupt (table : TableName) (id : Uuid) (reason : String)
  deriving DecidableEq

namespace StoreError

/-- The wording of a storage error. -/
def message : StoreError → String
  | listNotFound list => "Status list not found: " ++ list.text
  | duplicate credential purpose =>
    "status entry already exists for credential " ++ credential.text ++ " (" ++ purpose.text ++ ")"
  | indexConflict list requested =>
    "index " ++ decimalText requested ++ " is past the next free slot of status list " ++ list.text
  | listFull list => "status list " ++ list.text ++ " has no remaining capacity"
  | incompatible list =>
    "status entry does not match purpose or statusSize of list " ++ list.text
  | rejected cause => cause.message
  | database fault => "database error: " ++ fault.message
  | columnOverflow value => decimalText value ++ " does not fit in a BIGINT column"
  | corrupt table id reason =>
    "corrupt " ++ table.text ++ " row " ++ id.text ++ ": " ++ reason

/-- Whether another attempt may find another list or slot. -/
def isRace : StoreError → Bool
  | indexConflict _ _ => true
  | listFull _ => true
  | _ => false

end StoreError

end StatusRegistry

import StatusRegistry.Store.Error

/-!
# Service errors

Why a service does not do what it is asked to, in the terms of its callers: what they have to mend,
what is missing, and what the store is to blame for.

* `ServiceError.ofStore` sorts the errors of a store into these three.
-/

set_option autoImplicit false

namespace StatusRegistry

/-- Why a service does not do what it is asked to. -/
inductive ServiceError where
  /-- The request has to be mended. -/
  | validation (cause : ValidationError)
  | listNotFound (list : ListId)
  /-- In every attempt the chosen list filled up first. -/
  | exhausted (attempts : Nat)
  /-- A list or an entry refuses the change. -/
  | rejected (cause : ListError)
  | store (cause : StoreError)
  deriving DecidableEq

namespace ServiceError

/-- The wording of a service error. -/
def message : ServiceError → String
  | validation cause => cause.message
  | listNotFound list => "Status list not found: " ++ list.text
  | exhausted attempts =>
    "no status slot could be allocated after " ++ Text.decimalText attempts ++ " attempts"
  | rejected cause => cause.message
  | store cause => "storage error: " ++ cause.message

/-- What an error of a store is for the callers of a service. -/
def ofStore : StoreError → ServiceError
  | .listNotFound list => listNotFound list
  | .rejected (.validation cause) => validation cause
  | e => store e

/-- Whether a record is missing. -/
def isNotFound : ServiceError → Bool
  | listNotFound _ => true
  | _ => false

/-- Whether the request has to be mended. -/
def isValidation : ServiceError → Bool
  | validation _ => true
  | rejected (.validation _) => true
  | _ => false

end ServiceError

end StatusRegistry

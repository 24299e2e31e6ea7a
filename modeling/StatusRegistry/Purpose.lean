import StatusRegistry.Json.Reading

/-!
# Status purposes

What a status list says about credentials.  Code 0 means for every purpose that nothing is set;
the other codes carry the purpose's meaning, and for messages each is a message of its own.

* `ofText_text`, `ofText_eq_ok_iff`: the four names are the only accepted ones, and each is read
  back as its purpose.
-/

set_option autoImplicit false

namespace StatusRegistry

/-- What a status list says about credentials. -/
inductive Purpose where
  | revocation
  | suspension
  | refresh
  | message
  deriving DecidableEq, Hashable, Repr

namespace Purpose

/-- All purposes, in their fixed order. -/
def all : List Purpose := [revocation, suspension, refresh, message]

/-- The name of a purpose in documents. -/
def text : Purpose → String
  | revocation => "revocation"
  | suspension => "suspension"
  | refresh => "refresh"
  | message => "message"

/-- The label of code 0. -/
def clearLabel : Purpose → String
  | revocation => "not_revoked"
  | suspension => "not_suspended"
  | refresh => "no_refresh_needed"
  | message => "no_message"

/-- The label of a code. -/
def label (purpose : Purpose) (code : UInt8) : String :=
  if code = 0 then purpose.clearLabel
  else
    match purpose with
    | revocation => "revoked"
    | suspension => "suspended"
    | refresh => "refresh_available"
    | message => "message_" ++ Text.decimalText code.toNat

/-- The purpose of a given name. -/
def ofText (s : String) : Except ValidationError Purpose :=
  if s = "revocation" then .ok revocation
  else if s = "suspension" then .ok suspension
  else if s = "refresh" then .ok refresh
  else if s = "message" then .ok message
  else .error (.invalidPurpose s)

/-- Reads a purpose from a document. -/
def ofJson : Reader Purpose := fun j => do
  match ofText (← Reader.string j) with
  | .ok p => return p
  | .error e => throw (.rejected e)

/-- A purpose in a document. -/
def toJson (p : Purpose) : Json := .string p.text

@[simp] theorem ofText_text (p : Purpose) : ofText p.text = .ok p := by
  cases p <;> rfl

theorem ofText_eq_ok_iff {s : String} {p : Purpose} : ofText s = .ok p ↔ s = p.text := by
  constructor
  · intro h
    unfold ofText at h
    repeat' split at h
    all_goals first
      | (cases h; assumption)
      | cases h
  · rintro rfl
    exact ofText_text p

end Purpose

end StatusRegistry

import StatusRegistry.Text.Blank
import StatusRegistry.Uuid

/-!
# Identifiers

Who and what status lists are about.  Issuers and credentials are named by any text that is not
blank; lists and entries are named by UUIDs of their own.  The four types are distinct, so one
kind of identifier never stands in for another.

* `IssuerId.ofText`, `CredentialId.ofText` accept exactly the texts that are not blank, and keep
  them as they are.
-/

set_option autoImplicit false

namespace StatusRegistry

open Text

/-! ## Issuers and credentials -/

/-- The name of an issuer: a text that is not blank. -/
structure IssuerId where
  text : String
  notBlank : blank text = false
  deriving DecidableEq

/-- The name of a credential: a text that is not blank. -/
structure CredentialId where
  text : String
  notBlank : blank text = false
  deriving DecidableEq

instance : Hashable IssuerId := ⟨fun i => hash i.text⟩

instance : Hashable CredentialId := ⟨fun c => hash c.text⟩

namespace IssuerId

/-- The issuer with a given name, unless the name is blank. -/
def ofText (s : String) : Except ValidationError IssuerId :=
  if h : blank s = false then .ok ⟨s, h⟩ else .error .missingIssuer

/-- Reads an issuer's name from a document. -/
def ofJson : Reader IssuerId := fun j => do
  match ofText (← Reader.string j) with
  | .ok i => return i
  | .error e => throw (.rejected e)

/-- An issuer's name in a document. -/
def toJson (i : IssuerId) : Json := .string i.text

@[simp] theorem ofText_text (i : IssuerId) : ofText i.text = .ok i := by
  simp [ofText, i.notBlank]

theorem ofText_eq_ok_iff {s : String} {i : IssuerId} : ofText s = .ok i ↔ i.text = s := by
  constructor
  · intro h
    unfold ofText at h
    split at h
    · cases h; rfl
    · cases h
  · rintro rfl
    exact ofText_text i

end IssuerId

namespace CredentialId

/-- The credential with a given name, unless the name is blank. -/
def ofText (s : String) : Except ValidationError CredentialId :=
  if h : blank s = false then .ok ⟨s, h⟩ else .error .missingCredential

/-- Reads a credential's name from a document. -/
def ofJson : Reader CredentialId := fun j => do
  match ofText (← Reader.string j) with
  | .ok c => return c
  | .error e => throw (.rejected e)

/-- A credential's name in a document. -/
def toJson (c : CredentialId) : Json := .string c.text

@[simp] theorem ofText_text (c : CredentialId) : ofText c.text = .ok c := by
  simp [ofText, c.notBlank]

theorem ofText_eq_ok_iff {s : String} {c : CredentialId} : ofText s = .ok c ↔ c.text = s := by
  constructor
  · intro h
    unfold ofText at h
    split at h
    · cases h; rfl
    · cases h
  · rintro rfl
    exact ofText_text c

end CredentialId

/-! ## Lists and entries -/

/-- The identifier of a status list. -/
structure ListId where
  uuid : Uuid
  deriving DecidableEq, Hashable, Repr

/-- The identifier of a status entry. -/
structure EntryId where
  uuid : Uuid
  deriving DecidableEq, Hashable, Repr

namespace ListId

/-- The text of a list's identifier. -/
def text (i : ListId) : String := i.uuid.text

/-- Reads a list's identifier from a document. -/
def ofJson : Reader ListId := fun j => (Uuid.ofJson j).map ListId.mk

/-- A list's identifier in a document. -/
def toJson (i : ListId) : Json := i.uuid.toJson

end ListId

namespace EntryId

/-- The text of an entry's identifier. -/
def text (i : EntryId) : String := i.uuid.text

/-- Reads an entry's identifier from a document. -/
def ofJson : Reader EntryId := fun j => (Uuid.ofJson j).map EntryId.mk

/-- An entry's identifier in a document. -/
def toJson (i : EntryId) : Json := i.uuid.toJson

end EntryId

end StatusRegistry

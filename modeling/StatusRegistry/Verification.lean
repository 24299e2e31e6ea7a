import StatusRegistry.Bitstring.EncodedList
import StatusRegistry.Document.Status
import StatusRegistry.StatusList.Request

/-!
# Checking a status

The verifier's side: what a claim and the status list credential that it points at say about a
credential.  Fetching the list and checking its proof are not part of this.

* `checkStatus` reports the first check that fails, in the order in which they are written down.
* Each failure has one of the processing error names of the data model.
-/

set_option autoImplicit false

namespace StatusRegistry

open Text

/-- Why a status cannot be told. -/
inductive CheckError where
  /-- The claim or the list is not what it should be. -/
  | document (cause : DocumentError)
  /-- The document is no status list credential. -/
  | notAListCredential
  | purposeMismatch (claim list : Purpose)
  | widthMismatch (claim list : SlotWidth)
  | notYetValid (validFrom : Instant)
  | expired (validUntil : Instant)
  /-- The bitstring cannot be read. -/
  | decode (cause : CodecError)
  /-- The list has too few slots to hide a credential. -/
  | listTooShort (bits required : Nat)
  | indexOutOfRange (index capacity : Nat)
  deriving DecidableEq

namespace CheckError

/-- The wording of a failed check. -/
def message : CheckError → String
  | document cause => "malformed status document: " ++ cause.message
  | notAListCredential => "document is not a BitstringStatusListCredential"
  | purposeMismatch claim list =>
    "status purpose mismatch: entry is " ++ claim.text ++ ", list is " ++ list.text
  | widthMismatch claim list =>
    "status size mismatch: entry has " ++ decimalText claim.bits ++ " bits, list has " ++
      decimalText list.bits
  | notYetValid validFrom => "status list is not valid before " ++ validFrom.spacedText
  | expired validUntil => "status list expired at " ++ validUntil.spacedText
  | decode cause => "encodedList is malformed: " ++ cause.message
  | listTooShort bits required =>
    "status list holds " ++ decimalText bits ++ " bits, at least " ++ decimalText required ++
      " required"
  | indexOutOfRange index capacity =>
    "statusListIndex " ++ decimalText index ++ " is outside a list of " ++ decimalText capacity ++
      " entries"

/-- The processing error name of a failed check. -/
def processingError : CheckError → String
  | decode _ => "MALFORMED_VALUE_ERROR"
  | listTooShort _ _ => "STATUS_LIST_LENGTH_ERROR"
  | indexOutOfRange _ _ => "RANGE_ERROR"
  | _ => "STATUS_VERIFICATION_ERROR"

end CheckError

/-- What a claim and a list say. -/
structure StatusCheck where
  purpose : Purpose
  index : UInt64
  status : UInt8
  message : String
  deriving DecidableEq

/-- Whether any status is set. -/
def StatusCheck.isSet (c : StatusCheck) : Bool := c.status != 0

/-- The message of a code: the first one of the list for it, else the label of the purpose. -/
def messageFor (list : ListSubject) (code : UInt8) : String :=
  match list.messages.bind fun ms => ms.find? fun m => m.code? == some code with
  | some m => m.message
  | none => list.purpose.label code

/-- Checks that a claim and a document are of the types they should be. -/
def checkTypes (claim : StatusClaim) (credential : ListCredential) : Except CheckError Unit := do
  claim.ensureType.mapError .document
  if !(credential.type.contains CredentialType.verifiable &&
      credential.type.contains ListCredential.typeName) then
    throw .notAListCredential
  credential.subject.ensureType.mapError .document

/-- Checks that a document is valid at a time. -/
def checkValidity (credential : ListCredential) (now : Instant) : Except CheckError Unit := do
  if let some validFrom := credential.validFrom then
    if now < validFrom then throw (.notYetValid validFrom)
  if let some validUntil := credential.validUntil then
    if validUntil ≤ now then throw (.expired validUntil)

/-- Checks that a claim and a list speak of the same purpose and width. -/
def checkAgreement (claim : StatusClaim) (list : ListSubject) : Except CheckError Unit := do
  if claim.purpose ≠ list.purpose then throw (.purposeMismatch claim.purpose list.purpose)
  if claim.slotWidth ≠ list.slotWidth then throw (.widthMismatch claim.slotWidth list.slotWidth)

/-- Reads the slot of a claim from a list: its index and its code. -/
def readClaimed (claim : StatusClaim) (list : ListSubject) :
    Except CheckError (UInt64 × UInt8) := do
  let data ← (Bitstring.decode list.encodedList).mapError .decode
  let bits := 8 * data.size
  let required := minCapacity.toNat * list.slotWidth.bits
  if bits < required then throw (.listTooShort bits required)
  let index ← claim.index.mapError .document
  let capacity := bits / list.slotWidth.bits
  if capacity ≤ index.toNat then throw (.indexOutOfRange index.toNat capacity)
  let code ← (Bitstring.readSlot data index.toNat list.slotWidth).mapError .decode
  return (index, code)

/-- What a claim and the list it points at say at a time. -/
def checkStatus (claim : StatusClaim) (credential : ListCredential) (now : Instant) :
    Except CheckError StatusCheck := do
  checkTypes claim credential
  checkValidity credential now
  let list := credential.subject
  checkAgreement claim list
  let (index, code) ← readClaimed claim list
  return ⟨list.purpose, index, code, messageFor list code⟩

end StatusRegistry

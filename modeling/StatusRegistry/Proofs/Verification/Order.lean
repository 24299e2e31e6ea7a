import StatusRegistry.Proofs.Bitstring.EncodedList
import StatusRegistry.Proofs.Bitstring.Words
import StatusRegistry.Proofs.Steps
import StatusRegistry.Verification

/-!
# The order of the checks

A verifier makes eleven checks of a claim, a document and a time, none of which it trusts, and
reports the first that fails.  If none fails, each later step is safe because of the earlier ones:
the slot lies in the list, and the numbers on the way to it fit machine words.

* `Check.all`: the checks in their order, each with the error that it fails with;
* `checkTypes_decides`, `checkValidity_decides`, `checkAgreement_decides`, `readClaimed_decides`:
  the parts of the verifier make the checks in this order;
* `checkStatus_decides`: what the verifier decides.
-/

set_option autoImplicit false

namespace StatusRegistry

open Bytes

/-- The types of a credential, in whichever form they are given. -/
def CredentialType.names : CredentialType → List String
  | single name => [name]
  | several names => names

theorem CredentialType.contains_iff {type : CredentialType} {name : String} :
    type.contains name = true ↔ name ∈ type.names := by
  cases type with
  | single n => exact beq_iff_eq.trans (eq_comm.trans List.mem_singleton.symm)
  | several ns => exact List.contains_iff_mem

/-! ## The checks -/

/-- A check of a verifier, as the errors that it fails with. -/
abbrev Check := CheckError → Prop

namespace Check

variable (claim : StatusClaim) (credential : ListCredential) (list : ListSubject) (now : Instant)

/-- The claim is a claim of the right type. -/
def claimType : Check := fun e =>
  claim.type ≠ StatusClaim.typeName ∧
    e = .document (.unexpectedType StatusClaim.typeName claim.type)

/-- The document has both types of a status list credential. -/
def credentialTypes : Check := fun e =>
  ¬ (CredentialType.verifiable ∈ credential.type.names ∧
    ListCredential.typeName ∈ credential.type.names) ∧ e = .notAListCredential

/-- The subject of the document is a status list. -/
def subjectType : Check := fun e =>
  list.type ≠ ListSubject.typeName ∧
    e = .document (.unexpectedType ListSubject.typeName list.type)

/-- The document is valid already. -/
def started : Check := fun e =>
  ∃ first, credential.validFrom = some first ∧ now < first ∧ e = .notYetValid first

/-- The document is still valid. -/
def notEnded : Check := fun e =>
  ∃ last, credential.validUntil = some last ∧ last ≤ now ∧ e = .expired last

/-- Claim and list have one purpose. -/
def purposes : Check := fun e =>
  claim.purpose ≠ list.purpose ∧ e = .purposeMismatch claim.purpose list.purpose

/-- Claim and list have one width; where none is stated, it is one bit. -/
def widths : Check := fun e =>
  claim.width.getD .one ≠ list.width.getD .one ∧
    e = .widthMismatch (claim.width.getD .one) (list.width.getD .one)

/-- The text of the list stands for bytes. -/
def decodes : Check := fun e =>
  ∃ cause, Bitstring.decode list.encodedList = .error cause ∧ e = .decode cause

/-- The list has slots for as many credentials as any list must have. -/
def longEnough : Check := fun e =>
  ∃ data, Bitstring.decode list.encodedList = .ok data ∧
    8 * data.size < 131072 * (list.width.getD .one).bits ∧
    e = .listTooShort (8 * data.size) (131072 * (list.width.getD .one).bits)

/-- The index of the claim is a number. -/
def indexReads : Check := fun e =>
  ∃ cause, claim.index = .error cause ∧ e = .document cause

/-- The index of the claim lies in the list. -/
def indexWithin : Check := fun e =>
  ∃ data index, Bitstring.decode list.encodedList = .ok data ∧ claim.index = .ok index ∧
    8 * data.size / (list.width.getD .one).bits ≤ index.toNat ∧
    e = .indexOutOfRange index.toNat (8 * data.size / (list.width.getD .one).bits)

/-- All checks, in the order in which they are made. -/
def all : List Check :=
  [claimType claim, credentialTypes credential, subjectType credential.subject,
    started credential now, notEnded credential now,
    purposes claim credential.subject, widths claim credential.subject,
    decodes credential.subject, longEnough credential.subject, indexReads claim,
    indexWithin claim credential.subject]

end Check

/-! ## The parts of the verifier -/

section Parts

variable {claim : StatusClaim} {credential : ListCredential} {list : ListSubject} {now : Instant}

theorem checkTypes_decides : Decides (checkTypes claim credential)
    [Check.claimType claim, Check.credentialTypes credential,
      Check.subjectType credential.subject] := by
  unfold checkTypes
  refine .step (fun e => ?_) fun _ _ => .guard (fun e => ?_) rfl fun _ => .lastStep fun e => ?_
  · simp only [Check.claimType, StatusClaim.ensureType, ite_eq_error_iff, and_assoc,
      exists_and_left, exists_eq_left, ne_eq]
  · simp only [Check.credentialTypes, Bool.not_eq_true', ← Bool.not_eq_true, Bool.and_eq_true,
      CredentialType.contains_iff]
  · simp only [Check.subjectType, ListSubject.ensureType, ite_eq_error_iff, and_assoc,
      exists_and_left, exists_eq_left, ne_eq]

theorem checkValidity_decides : Decides (checkValidity credential now)
    [Check.started credential now, Check.notEnded credential now] := by
  unfold checkValidity
  cases hfirst : credential.validFrom with
  | none =>
    refine .skip (fun e => ?_) ?_
    · simp [Check.started, hfirst]
    cases hlast : credential.validUntil with
    | none => exact .skip (fun e => by simp [Check.notEnded, hlast]) (.nil rfl)
    | some last =>
      refine .guard (fun e => ?_) rfl fun _ => .nil rfl
      simp [Check.notEnded, hlast]
  | some first =>
    refine .guard (fun e => ?_) rfl fun _ => ?_
    · simp [Check.started, hfirst]
    cases hlast : credential.validUntil with
    | none => exact .skip (fun e => by simp [Check.notEnded, hlast]) (.nil rfl)
    | some last =>
      refine .guard (fun e => ?_) rfl fun _ => .nil rfl
      simp [Check.notEnded, hlast]

theorem checkAgreement_decides : Decides (checkAgreement claim list)
    [Check.purposes claim list, Check.widths claim list] := by
  unfold checkAgreement
  exact .guard (fun _ => .rfl) rfl fun _ => .guard (fun _ => .rfl) rfl fun _ => .nil rfl

theorem readClaimed_decides : Decides (readClaimed claim list)
    [Check.decodes list, Check.longEnough list, Check.indexReads claim,
      Check.indexWithin claim list] := by
  unfold readClaimed
  refine .step (fun e => .rfl) fun data hdata => .guard (fun e => ?_) rfl fun hlong =>
    .step (fun e => .rfl) fun index hindex => .guard (fun e => ?_) rfl fun hwithin => ?_
  · simp only [Check.longEnough, hdata, Except.ok.injEq, exists_eq_left']
    rfl
  · simp only [Check.indexWithin, hdata, hindex, Except.ok.injEq, exists_eq_left', exists_and_left]
    rfl
  · rw [Bitstring.readSlot_number (Nat.not_le.mp hwithin)]
    exact .nil rfl

/-- **The verifier makes the checks in their order.** -/
theorem checkStatus_decides :
    Decides (checkStatus claim credential now) (Check.all claim credential now) := by
  unfold checkStatus
  exact checkTypes_decides.bind fun _ _ => checkValidity_decides.bind fun _ _ =>
    checkAgreement_decides.bind fun _ _ => readClaimed_decides.bind fun _ _ => .nil rfl

end Parts

/-! ## What is told if no check fails -/

/-- The text that a list tells of a code: the first of its messages for the code, else the label of
its purpose. -/
def ListSubject.Tells (list : ListSubject) (code : UInt8) (text : String) : Prop :=
  (∃ messages front m back, list.messages = some messages ∧ messages = front ++ m :: back ∧
      (∀ other ∈ front, other.code? ≠ some code) ∧ m.code? = some code ∧ text = m.message) ∨
    (∀ messages, list.messages = some messages → ∀ m ∈ messages, m.code? ≠ some code) ∧
      text = list.purpose.label code

theorem messageFor_tells (list : ListSubject) (code : UInt8) :
    list.Tells code (messageFor list code) := by
  unfold messageFor
  cases hmessages : list.messages with
  | none => exact .inr ⟨fun _ h => (nomatch hmessages.symm.trans h), rfl⟩
  | some messages =>
    rw [Option.bind_some]
    cases hfound : messages.find? fun m => m.code? == some code with
    | none =>
      refine .inr ⟨fun _ h m hm => ?_, rfl⟩
      cases hmessages.symm.trans h
      simpa using List.find?_eq_none.mp hfound m hm
    | some m =>
      obtain ⟨hcode, front, back, hsplit, hfront⟩ := List.find?_eq_some_iff_append.mp hfound
      refine .inl ⟨messages, front, m, back, hmessages, hsplit, fun other hother => ?_,
        eq_of_beq hcode, rfl⟩
      simpa using hfront other hother

section Results

variable {claim : StatusClaim} {credential : ListCredential} {list : ListSubject} {now : Instant}

/-- The code that is read is a digit of the number of the decoded bytes. -/
theorem readClaimed_eq_ok {index : UInt64} {code : UInt8}
    (h : readClaimed claim list = .ok (index, code)) :
    ∃ data, Bitstring.decode list.encodedList = .ok data ∧ claim.index = .ok index ∧
      code.toNat = number data / 2 ^ (8 * data.size - (index.toNat + 1) * list.slotWidth.bits) %
        2 ^ list.slotWidth.bits := by
  unfold readClaimed at h
  obtain ⟨data, hdata, h⟩ := bind_eq_ok_iff.mp h
  obtain ⟨-, h⟩ := guard_eq_ok h rfl
  obtain ⟨found, hfound, h⟩ := bind_eq_ok_iff.mp h
  obtain ⟨hwithin, h⟩ := guard_eq_ok h rfl
  rw [Bitstring.readSlot_number (Nat.not_le.mp hwithin)] at h
  cases h
  refine ⟨data, mapError_eq_ok_iff.mp hdata, mapError_eq_ok_iff.mp hfound, ?_⟩
  exact Bitstring.toNat_ofNat_code (Nat.mod_lt _ (Bitstring.codeCount_pos list.slotWidth))

theorem checkStatus_eq_ok {found : StatusCheck}
    (h : checkStatus claim credential now = .ok found) :
    found.purpose = credential.subject.purpose ∧
      readClaimed claim credential.subject = .ok (found.index, found.status) ∧
      found.message = messageFor credential.subject found.status := by
  unfold checkStatus at h
  obtain ⟨-, -, h⟩ := bind_eq_ok_iff.mp h
  obtain ⟨-, -, h⟩ := bind_eq_ok_iff.mp h
  obtain ⟨-, -, h⟩ := bind_eq_ok_iff.mp h
  obtain ⟨⟨index, code⟩, hread, h⟩ := bind_eq_ok_iff.mp h
  cases h
  exact ⟨rfl, hread, rfl⟩

/-- Only a text that does not decode is reported as one. -/
theorem decode_of_checkStatus {cause : CodecError}
    (h : checkStatus claim credential now = .error (.decode cause)) :
    Bitstring.decode credential.subject.encodedList = .error cause := by
  have hfails := ((checkStatus_decides _).mp h).exists
  simpa [Check.all, Check.claimType, Check.credentialTypes, Check.subjectType, Check.started,
    Check.notEnded, Check.purposes, Check.widths, Check.decodes, Check.longEnough, Check.indexReads,
    Check.indexWithin] using hfails

/-- An error that tells from when or until when a document is valid. -/
def CheckError.OfValidity (e : CheckError) : Prop :=
  (∃ first, e = .notYetValid first) ∨ ∃ last, e = .expired last

/-- Where the types are right, a document is told to be not valid iff it is not. -/
theorem checkStatus_validity_iff (htypes : checkTypes claim credential = .ok ()) {e : CheckError}
    (he : e.OfValidity) :
    checkStatus claim credential now = .error e ↔ checkValidity credential now = .error e := by
  unfold checkStatus
  rw [htypes, ok_bind, bind_eq_error_iff]
  -- what is checked behind the validity has errors of its own
  refine or_iff_left ?_
  rintro ⟨-, -, hrest⟩
  have hfails := ((checkAgreement_decides.bind fun _ _ =>
    readClaimed_decides.bind fun _ _ => .nil rfl) e).mp hrest
  obtain ⟨first, rfl⟩ | ⟨last, rfl⟩ := he
  all_goals
    simpa [Check.purposes, Check.widths, Check.decodes, Check.longEnough, Check.indexReads,
      Check.indexWithin] using hfails.exists

end Results

/-! ## The verdict -/

/-- What a verifier decides of a claim, a document and a time. -/
structure Verdict (claim : StatusClaim) (credential : ListCredential) (now : Instant) : Prop where
  /-- It reports the first check that fails. -/
  error_iff : ∀ e, checkStatus claim credential now = .error e ↔
    FirstFailure (Check.all claim credential now) e
  /-- It tells a status iff no check fails. -/
  ok_iff : (∃ found, checkStatus claim credential now = .ok found) ↔
    ∀ check ∈ Check.all claim credential now, ∀ e, ¬ check e
  /-- The status it tells is the code in the bits of the slot, the highest bit first. -/
  ok : ∀ found, checkStatus claim credential now = .ok found →
    ∃ data, Bitstring.decode credential.subject.encodedList = .ok data ∧
      claim.index = .ok found.index ∧ found.purpose = credential.subject.purpose ∧
      found.status.toNat = number data /
        2 ^ (8 * data.size - (found.index.toNat + 1) * credential.subject.slotWidth.bits) %
          2 ^ credential.subject.slotWidth.bits ∧
      credential.subject.Tells found.status found.message
  /-- It never reports that a slot could not be read or written. -/
  no_slot_error : ∀ cause, checkStatus claim credential now = .error (.decode cause) →
    (∀ index capacity, cause ≠ .indexOutOfRange index capacity) ∧
      ∀ value bits, cause ≠ .valueTooWide value bits
  /-- No number on the way to the slot outgrows a machine word. -/
  no_overflow : 131072 * credential.subject.slotWidth.bits < 2 ^ 64 ∧
    ∀ data, Bitstring.decode credential.subject.encodedList = .ok data →
      8 * data.size < 2 ^ 64 ∧ ∀ index : UInt64,
        Bitstring.Words.read? data index credential.subject.slotWidth =
          some (Bitstring.readSlot data index.toNat credential.subject.slotWidth)

/-- **The verifier decides exactly its checks**, for every claim, document and time. -/
theorem checkStatus_verdict (claim : StatusClaim) (credential : ListCredential) (now : Instant) :
    Verdict claim credential now where
  error_iff := checkStatus_decides
  ok_iff := checkStatus_decides.ok_iff
  ok found h := by
    obtain ⟨hpurpose, hread, hmessage⟩ := checkStatus_eq_ok h
    obtain ⟨data, hdata, hindex, hcode⟩ := readClaimed_eq_ok hread
    exact ⟨data, hdata, hindex, hpurpose, hcode, hmessage ▸ messageFor_tells _ _⟩
  no_slot_error cause h := by
    obtain ⟨reason, rfl | rfl⟩ | rfl := Bitstring.decode_eq_error (decode_of_checkStatus h)
    all_goals simp
  no_overflow := by
    have hbits := credential.subject.slotWidth.bits_le
    refine ⟨by omega, fun data hdata => ?_⟩
    have hsize := Bitstring.size_le_of_decode hdata
    have hfits : 8 * data.size ≤ Bitstring.maxBits := by
      unfold Bitstring.maxDecodedLength at hsize
      unfold Bitstring.maxBits
      omega
    exact ⟨Nat.lt_succ_of_le hfits, fun index => Bitstring.Words.read?_eq hfits index _⟩

end StatusRegistry

import StatusRegistry.Proofs.Document.Index
import StatusRegistry.Proofs.StatusList
import StatusRegistry.Proofs.Text.Numeral
import StatusRegistry.Service.Assignment
import StatusRegistry.Verification

/-!
# What a verifier reads

A claim and the credential in which its list is published, as they are made here, pass every check,
and the verifier reads the code in the slot of the claim.

* `StatusMessage.code?_ofCode`, `messageFor_subject`: the messages of a list say of each code what
  its purpose does;
* `checkStatus_credential`: the whole check.
-/

set_option autoImplicit false

namespace StatusRegistry

open Text

/-! ## Messages -/

namespace StatusMessage

/-- A plus sign is no digit, so no number is read where one stands in front. -/
theorem value?_plus (cs : List Char) : value? 16 ('+' :: cs) = none := by
  have hplus : digitIn? 16 '+' = none := by decide
  simp only [value?, extend?, hplus]

/-- Digits in front of which no plus sign stands are kept as they are. -/
theorem dropPlus_of_value? {cs : List Char} {n : Nat} (h : value? 16 cs = some n) :
    dropPlus cs = cs := by
  unfold dropPlus
  split
  · rename_i digits
    cases (value?_plus digits).symm.trans h
  · rfl

/-- The message of a code is a message of this code. -/
theorem code?_ofCode (code : UInt8) (message : String) :
    (ofCode code message).code? = some code := by
  have hvalue := value?_hexUpper code.toNat
  have hlt : code.toNat < 256 := code.toNat_lt
  have hdigits : codeDigits? (ofCode code message).status.toList =
      some ((hex code.toNat).map upperAscii) := by
    simp [ofCode, codeDigits?]
  unfold code?
  simp only [hdigits, dropPlus_of_value? hvalue, hvalue, if_pos hlt, UInt8.ofNat_toNat]

end StatusMessage

namespace StatusList

theorem mem_codes {width : SlotWidth} {code : UInt8} (h : code.toNat < width.codeCount) :
    code ∈ codes width :=
  List.mem_map.mpr ⟨code.toNat, List.mem_range.mpr h, UInt8.ofNat_toNat⟩

/-- The first message of a list for a code has the label of the purpose. -/
theorem find?_defaultMessages (l : StatusList) {code : UInt8}
    (h : code.toNat < l.width.codeCount) :
    (l.defaultMessages.find? fun m => m.code? == some code) =
      some (.ofCode code (l.purpose.label code)) := by
  have hfound : ((codes l.width).find? fun c => c == code) = some code := by
    have hsome : ((codes l.width).find? fun c => c == code).isSome = true :=
      List.find?_isSome.mpr ⟨code, mem_codes h, beq_self_eq_true code⟩
    obtain ⟨c, hc⟩ := Option.isSome_iff_exists.mp hsome
    have hcode : (c == code) = true := List.find?_some (p := fun c => c == code) hc
    rw [hc, eq_of_beq hcode]
  have hmessages : ∀ c, ((StatusMessage.ofCode c (l.purpose.label c)).code? == some code) =
      (c == code) := by
    intro c
    rw [StatusMessage.code?_ofCode]
    rfl
  unfold defaultMessages
  simp only [List.find?_map, Function.comp_def, hmessages, hfound, Option.map_some]

/-- A published list says of a code what its purpose does, whether it lists messages or not. -/
theorem messageFor_subject (l : StatusList) {code : UInt8} (h : code.toNat < l.width.codeCount)
    (id : Option String) :
    messageFor { l.subject with id } code = l.purpose.label code := by
  unfold messageFor subject
  simp only
  by_cases hmulti : l.multiBit = true
  · simp only [if_pos hmulti, Option.bind_some, find?_defaultMessages l h]
    rfl
  · simp only [if_neg hmulti, Option.bind_none]

/-- A list that does not publish its width has slots of one bit. -/
theorem slotWidth_subject (l : StatusList) (id : Option String) :
    ({ l.subject with id } : ListSubject).slotWidth = l.width := by
  unfold ListSubject.slotWidth subject multiBit
  cases l.width <;> rfl

end StatusList

/-! ## The checks -/

section Checks

variable {c : Config} {e : StatusEntry} {l : StatusList} {issuer : Issuer} {url : String}

/-- A published list is of the types that a verifier asks for. -/
theorem checkTypes_credential {claim : StatusClaim} (hclaim : claim.type = StatusClaim.typeName) :
    checkTypes claim (l.credential issuer url) = .ok () := by
  have hcontains : ((l.credential issuer url).type.contains CredentialType.verifiable &&
      (l.credential issuer url).type.contains ListCredential.typeName) = true := rfl
  unfold checkTypes StatusClaim.ensureType
  rw [if_pos hclaim, hcontains]
  rfl

theorem checkValidity_credential {now : Instant} (hfrom : l.createdAt.instant ≤ now)
    (huntil : ∀ t, l.validUntil = some t → now < t.instant) :
    checkValidity (l.credential issuer url) now = .ok () := by
  have hstarted : ¬ now < l.createdAt.instant := Instant.not_lt.mpr hfrom
  have hvalidFrom : (l.credential issuer url).validFrom = some l.createdAt.instant := rfl
  have hvalidUntil : (l.credential issuer url).validUntil = l.validUntil.map Timestamp.instant :=
    rfl
  unfold checkValidity
  rw [hvalidFrom, hvalidUntil]
  cases hend : l.validUntil with
  | none =>
    simp only [if_neg hstarted]
    rfl
  | some t =>
    have hgoing : ¬ t.instant ≤ now := fun hle => Instant.not_lt.mpr hle (huntil t hend)
    simp only [Option.map_some, if_neg hstarted, if_neg hgoing]
    rfl

theorem checkAgreement_credential (hpurpose : l.purpose = e.purpose) (hwidth : l.width = e.width) :
    checkAgreement (Service.claim c e) (l.credential issuer url).subject = .ok () := by
  have hpurposes : (Service.claim c e).purpose = (l.credential issuer url).subject.purpose :=
    hpurpose.symm
  have hwidths : (Service.claim c e).slotWidth = (l.credential issuer url).subject.slotWidth :=
    hwidth.symm.trans (l.slotWidth_subject _).symm
  unfold checkAgreement
  rw [if_neg (not_not_intro hpurposes), if_neg (not_not_intro hwidths)]
  rfl

/-- The slot of a claim is found in the text of its list. -/
theorem readClaimed_credential (hl : l.Sound) (hindex : e.index < l.capacity)
    {data : ByteArray} (hdata : l.Holds data) {status : UInt8}
    (hslot : Bitstring.readSlot data e.index.toNat l.width = .ok status) :
    readClaimed (Service.claim c e) (l.credential issuer url).subject =
      .ok (e.index, status) := by
  have hslotWidth : (l.credential issuer url).subject.slotWidth = l.width :=
    l.slotWidth_subject _
  have hdecode : Bitstring.decode (l.credential issuer url).subject.encodedList = .ok data :=
    hdata.decode_eq hl.le_maxCapacity
  have hlong : ¬ 8 * data.size < minCapacity.toNat * l.width.bits := by
    have hcapacity := UInt64.le_iff_toNat_le.mp hl.minCapacity_le
    have hbits := StatusList.bits_le_maxBits hl.le_maxCapacity
    have hproduct := Nat.mul_le_mul_right l.width.bits hcapacity
    rw [hdata.size_eq, Bitstring.bufferLength, Nat.min_eq_left hbits]
    omega
  have hinside : ¬ 8 * data.size / l.width.bits ≤ e.index.toNat :=
    Nat.not_le.mpr (hdata.lt_slotCount hl.le_maxCapacity hindex)
  unfold readClaimed
  simp only [hslotWidth, hdecode, Service.index_claim, hslot, Except.mapError, bind, Except.bind,
    if_neg hlong, if_neg hinside]
  rfl

/-- **A claim and the credential of its list pass every check**, and the verifier reads what is
stored in the slot of the claim. -/
theorem checkStatus_credential (hl : l.Sound) (hpurpose : l.purpose = e.purpose)
    (hwidth : l.width = e.width) (hindex : e.index < l.capacity) {data : ByteArray}
    (hdata : l.Holds data) {status : UInt8}
    (hslot : Bitstring.readSlot data e.index.toNat l.width = .ok status) {now : Instant}
    (hfrom : l.createdAt.instant ≤ now) (huntil : ∀ t, l.validUntil = some t → now < t.instant) :
    checkStatus (Service.claim c e) (l.credential issuer url) now =
      .ok ⟨e.purpose, e.index, status, e.purpose.label status⟩ := by
  have htype : (Service.claim c e).type = StatusClaim.typeName := rfl
  have hmessage : messageFor (l.credential issuer url).subject status = l.purpose.label status :=
    l.messageFor_subject (Bitstring.readSlot_lt hslot) _
  unfold checkStatus
  simp only [checkTypes_credential htype, checkValidity_credential hfrom huntil,
    checkAgreement_credential hpurpose hwidth, readClaimed_credential hl hindex hdata hslot,
    bind, Except.bind, hmessage, ← hpurpose]
  rfl

end Checks

end StatusRegistry

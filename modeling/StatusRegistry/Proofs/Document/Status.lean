import StatusRegistry.Document.Status
import StatusRegistry.Proofs.Instant
import StatusRegistry.Proofs.Json.Reading

/-!
# Documents read back

Claims and status list credentials are read back as they were written.

* `StatusClaim.undoes`: claims;
* `ListCredential.ofJson_toJson`: status list credentials, with every member that an envelope can
  have, if the proof is not null.
-/

set_option autoImplicit false

namespace StatusRegistry

open Json.Members (written field?_given field?_written optional_written)
open Reader (Undoes string_undoes u64_undoes list_undoes)

/-! ## Small values -/

theorem Purpose.undoes : Undoes Purpose.ofJson Purpose.toJson := by
  refine ⟨?_, fun _ h => nomatch h⟩
  intro p
  cases p <;> rfl

theorem SlotWidth.undoes : Undoes SlotWidth.ofJson SlotWidth.toJson := by
  refine ⟨?_, fun _ h => nomatch h⟩
  intro w
  have hbits := w.bits_le
  have hread : Reader.u32 (.nat w.bits) = .ok (.ofNat w.bits) := Reader.u32_nat (by omega)
  have hnat : (UInt32.ofNat w.bits).toNat = w.bits := by
    rw [UInt32.toNat_ofNat', Nat.mod_eq_of_lt (by omega)]
  simp only [ofJson, toJson, hread, bind, Except.bind, hnat, ofBits_bits]
  rfl

theorem Instant.undoes : Undoes Instant.ofJson Instant.toJson := by
  refine ⟨?_, fun _ h => nomatch h⟩
  intro t
  simp only [ofJson, toJson, ofText?_text]

/-! ## Messages -/

namespace StatusMessage

/-- The members of a message. -/
def members (m : StatusMessage) : List (String × Option Json) :=
  [("status", some (.string m.status)), ("message", some (.string m.message))]

theorem undoes : Undoes ofJson toJson := by
  refine ⟨?_, fun _ h => nomatch h⟩
  intro m
  have hnames : (m.members.map Prod.fst).Nodup := by
    simp [members]
  have hmessage : (written m.members).field? "message" Reader.string = .ok (some m.message) :=
    field?_written hnames string_undoes rfl
  have hstatus : (written m.members).field? "status" Reader.string = .ok (some m.status) :=
    field?_written hnames string_undoes rfl
  show ofMembers (written m.members) = .ok m
  unfold ofMembers
  simp only [hmessage, hstatus]
  rfl

end StatusMessage

/-! ## Claims -/

namespace StatusClaim

/-- The members of a claim. -/
def members (c : StatusClaim) : List (String × Option Json) :=
  [("id", c.id.map .string), ("type", some (.string c.type)),
    ("statusPurpose", some c.purpose.toJson), ("statusListIndex", some (.string c.indexText)),
    ("statusSize", c.width.map SlotWidth.toJson),
    ("statusListCredential", some (.string c.listUrl))]

/-- **A claim is read back as it was written.** -/
theorem undoes : Undoes ofJson toJson := by
  refine ⟨?_, fun _ h => nomatch h⟩
  intro c
  have hnames : (c.members.map Prod.fst).Nodup := by
    simp [members]
  have hid : (written c.members).optional "id" Reader.string = .ok c.id :=
    optional_written hnames string_undoes rfl
  have hurl : (written c.members).field? "statusListCredential" Reader.string =
      .ok (some c.listUrl) := field?_written hnames string_undoes rfl
  have hindex : (written c.members).field? "statusListIndex" Reader.string =
      .ok (some c.indexText) := field?_written hnames string_undoes rfl
  have hpurpose : (written c.members).field? "statusPurpose" Purpose.ofJson =
      .ok (some c.purpose) := field?_written hnames Purpose.undoes rfl
  have hwidth : (written c.members).optional "statusSize" SlotWidth.ofJson = .ok c.width :=
    optional_written hnames SlotWidth.undoes rfl
  have htype : (written c.members).field? "type" Reader.string = .ok (some c.type) :=
    field?_written hnames string_undoes rfl
  show ofMembers (written c.members) = .ok c
  unfold ofMembers
  simp only [hid, hurl, hindex, hpurpose, hwidth, htype]
  rfl

end StatusClaim

/-! ## Lists -/

namespace ListSubject

/-- The members of a list. -/
def members (l : ListSubject) : List (String × Option Json) :=
  [("id", l.id.map .string), ("type", some (.string l.type)),
    ("statusPurpose", some l.purpose.toJson), ("encodedList", some (.string l.encodedList)),
    ("ttl", l.ttl.map fun n => Json.nat n.toNat), ("statusSize", l.width.map SlotWidth.toJson),
    ("statusMessages", l.messages.map fun ms => .array (ms.map StatusMessage.toJson))]

theorem undoes : Undoes ofJson toJson := by
  refine ⟨?_, fun _ h => nomatch h⟩
  intro l
  have hnames : (l.members.map Prod.fst).Nodup := by
    simp [members]
  have htext : (written l.members).field? "encodedList" Reader.string =
      .ok (some l.encodedList) := field?_written hnames string_undoes rfl
  have hid : (written l.members).optional "id" Reader.string = .ok l.id :=
    optional_written hnames string_undoes rfl
  have hmessages : (written l.members).optional "statusMessages"
      (Reader.list StatusMessage.ofJson) = .ok l.messages :=
    optional_written hnames (list_undoes StatusMessage.undoes) rfl
  have hpurpose : (written l.members).field? "statusPurpose" Purpose.ofJson =
      .ok (some l.purpose) := field?_written hnames Purpose.undoes rfl
  have hwidth : (written l.members).optional "statusSize" SlotWidth.ofJson = .ok l.width :=
    optional_written hnames SlotWidth.undoes rfl
  have httl : (written l.members).optional "ttl" Reader.u64 = .ok l.ttl :=
    optional_written hnames u64_undoes rfl
  have htype : (written l.members).field? "type" Reader.string = .ok (some l.type) :=
    field?_written hnames string_undoes rfl
  show ofMembers (written l.members) = .ok l
  unfold ofMembers
  simp only [htext, hid, hmessages, hpurpose, hwidth, httl, htype]
  rfl

end ListSubject

/-! ## Parts of the envelope -/

theorem Context.undoes : Undoes Context.ofJson Context.toJson := by
  constructor
  · intro c
    cases c <;> rfl
  · intro c h
    cases c <;> cases h

theorem CredentialType.undoes : Undoes CredentialType.ofJson CredentialType.toJson := by
  constructor
  · intro type
    cases type with
    | single name => rfl
    | several names =>
      have hread := (list_undoes string_undoes).read_write names
      simp only [ofJson, toJson, hread]
  · intro type h
    cases type <;> cases h

namespace IssuerProfile

/-- The members of a profile. -/
def members (p : IssuerProfile) : List (String × Option Json) :=
  [("id", some (.string p.id)), ("name", p.name.map .string), ("url", p.url.map .string)]

theorem undoes : Undoes ofJson toJson := by
  refine ⟨?_, fun _ h => nomatch h⟩
  intro p
  have hnames : (p.members.map Prod.fst).Nodup := by
    simp [members]
  have hid : (written p.members).field? "id" Reader.string = .ok (some p.id) :=
    field?_written hnames string_undoes rfl
  have hname : (written p.members).optional "name" Reader.string = .ok p.name :=
    optional_written hnames string_undoes rfl
  have hurl : (written p.members).optional "url" Reader.string = .ok p.url :=
    optional_written hnames string_undoes rfl
  show ofMembers (written p.members) = .ok p
  unfold ofMembers
  simp only [hid, hname, hurl]
  rfl

end IssuerProfile

theorem Issuer.undoes : Undoes Issuer.ofJson Issuer.toJson := by
  constructor
  · intro i
    cases i with
    | id text => rfl
    | profile p =>
      have hread := IssuerProfile.undoes.read_write p
      -- a profile is written as an object, which is not read as a text
      unfold IssuerProfile.toJson Json.record at hread
      simp only [ofJson, toJson, IssuerProfile.toJson, Json.record, hread]
  · intro i h
    cases i <;> cases h

/-! ## The envelope -/

namespace Credential

variable {Subject : Type} {read : Reader Subject} {write : Subject → Json}

/-- The members of a credential. -/
def members (write : Subject → Json) (c : Credential Subject) : List (String × Option Json) :=
  [("@context", some c.context.toJson), ("id", c.id.map .string),
    ("type", some c.type.toJson), ("issuer", some c.issuer.toJson),
    ("validFrom", c.validFrom.map Instant.toJson), ("validUntil", c.validUntil.map Instant.toJson),
    ("credentialSubject", some (write c.subject)), ("proof", c.proof)]

/-- A proof is read as it is, unless it is null. -/
theorem proof_written {c : Credential Subject} (hnames : ((c.members write).map Prod.fst).Nodup)
    (hproof : c.proof ≠ some .null) :
    (written (c.members write)).optional "proof" Reader.any = .ok c.proof := by
  unfold Json.Members.optional
  rw [Json.Members.lookup?_written hnames]
  cases hp : c.proof with
  | none =>
    have hgiven : Json.given? "proof" (c.members write) = none := hp
    rw [hgiven]
  | some j =>
    have hgiven : Json.given? "proof" (c.members write) = some j := hp
    rw [hgiven]
    show Reader.optional Reader.any j = .ok (some j)
    rw [hp] at hproof
    unfold Reader.optional
    split
    · exact absurd rfl hproof
    · rfl

/-- **A credential is read back as it was written**, if its subject is and its proof is not
null. -/
theorem ofJson_toJson (h : ∀ s, read (write s) = .ok s) (c : Credential Subject)
    (hproof : c.proof ≠ some .null) : ofJson read (c.toJson write) = .ok c := by
  have hnames : ((c.members write).map Prod.fst).Nodup := by
    simp [members]
  have hcontext : (written (c.members write)).field? "@context" Context.ofJson =
      .ok (some c.context) := field?_written hnames Context.undoes rfl
  have hsubject : (written (c.members write)).field? "credentialSubject" read =
      .ok (some c.subject) := field?_given hnames rfl (h c.subject)
  have hid : (written (c.members write)).optional "id" Reader.string = .ok c.id :=
    optional_written hnames string_undoes rfl
  have hissuer : (written (c.members write)).field? "issuer" Issuer.ofJson =
      .ok (some c.issuer) := field?_written hnames Issuer.undoes rfl
  have htype : (written (c.members write)).field? "type" CredentialType.ofJson =
      .ok (some c.type) := field?_written hnames CredentialType.undoes rfl
  have hfrom : (written (c.members write)).optional "validFrom" Instant.ofJson =
      .ok c.validFrom := optional_written hnames Instant.undoes rfl
  have huntil : (written (c.members write)).optional "validUntil" Instant.ofJson =
      .ok c.validUntil := optional_written hnames Instant.undoes rfl
  show ofMembers read (written (c.members write)) = .ok c
  unfold ofMembers
  simp only [hcontext, hsubject, hid, hissuer, htype, hfrom, huntil, proof_written hnames hproof]
  rfl

end Credential

theorem ListCredential.ofJson_toJson (c : ListCredential) (hproof : c.proof ≠ some .null) :
    ListCredential.ofJson (ListCredential.toJson c) = .ok c :=
  Credential.ofJson_toJson ListSubject.undoes.read_write c hproof

end StatusRegistry

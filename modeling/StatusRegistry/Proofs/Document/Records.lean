import StatusRegistry.Proofs.Document.Status
import StatusRegistry.Proofs.Steps
import StatusRegistry.Proofs.Uuid
import StatusRegistry.StatusEntry

/-!
# Records read back

Stored lists and entries, the requests for them and the outcomes of changes are read back as they
were written.

* `StatusList.undoes`, `StatusEntry.undoes`: lists and entries;
* `ListRequest.undoes`, `EntryRequest.undoes`, `StatusUpdate.undoes`: requests;
* `UpdateResult.undoes`: outcomes.
-/

set_option autoImplicit false

namespace StatusRegistry

open Json.Members (written field?_written optional_written optional_written_null)
open Reader (Undoes boolean_undoes string_undoes u8_undoes u32_undoes u64_undoes i64_undoes
  members_undoes)

/-! ## Identifiers and times -/

theorem IssuerId.undoes : Undoes IssuerId.ofJson IssuerId.toJson := by
  refine ⟨?_, fun _ h => nomatch h⟩
  intro i
  have hread : Reader.string i.toJson = .ok i.text := rfl
  simp only [ofJson, hread, ok_bind, ofText_text]
  rfl

theorem CredentialId.undoes : Undoes CredentialId.ofJson CredentialId.toJson := by
  refine ⟨?_, fun _ h => nomatch h⟩
  intro c
  have hread : Reader.string c.toJson = .ok c.text := rfl
  simp only [ofJson, hread, ok_bind, ofText_text]
  rfl

theorem ListId.undoes : Undoes ListId.ofJson ListId.toJson :=
  Uuid.undoes.map fun _ => rfl

theorem EntryId.undoes : Undoes EntryId.ofJson EntryId.toJson :=
  Uuid.undoes.map fun _ => rfl

theorem Timestamp.undoes : Undoes Timestamp.ofJson Timestamp.toJson :=
  Instant.undoes.map fun _ => rfl

/-! ## Lists -/

namespace ListRequest

/-- The members of a request for a list. -/
def members (r : ListRequest) : List (String × Option Json) :=
  [("issuerId", some r.issuer.toJson), ("purpose", some r.purpose.toJson),
    ("statusSize", some (.ofOption (r.width.map fun n => .nat n.toNat))),
    ("totalEntries", some (.ofOption (r.capacity.map fun n => .nat n.toNat))),
    ("ttl", some (.ofOption (r.ttl.map fun n => .int n.toInt))),
    ("metadata", some (.ofOption (r.metadata.map .object)))]

/-- **A request for a list is read back as it was written**: what it leaves open is written as null.
-/
theorem undoes : Undoes ofJson toJson := by
  refine ⟨?_, fun _ h => nomatch h⟩
  intro r
  have hnames : (r.members.map Prod.fst).Nodup := by
    simp [members]
  have hissuer : (written r.members).field? "issuerId" IssuerId.ofJson = .ok (some r.issuer) :=
    field?_written hnames IssuerId.undoes rfl
  have hmetadata : (written r.members).optional "metadata" Reader.members = .ok r.metadata :=
    optional_written_null hnames members_undoes rfl
  have hpurpose : (written r.members).field? "purpose" Purpose.ofJson = .ok (some r.purpose) :=
    field?_written hnames Purpose.undoes rfl
  have hwidth : (written r.members).optional "statusSize" Reader.u32 = .ok r.width :=
    optional_written_null hnames u32_undoes rfl
  have hcapacity : (written r.members).optional "totalEntries" Reader.u64 = .ok r.capacity :=
    optional_written_null hnames u64_undoes rfl
  have httl : (written r.members).optional "ttl" Reader.i64 = .ok r.ttl :=
    optional_written_null hnames i64_undoes rfl
  show ofMembers (written r.members) = .ok r
  unfold ofMembers
  simp only [hissuer, hmetadata, hpurpose, hwidth, hcapacity, httl]
  rfl

end ListRequest

namespace StatusList

/-- The members of a list. -/
def members (l : StatusList) : List (String × Option Json) :=
  [("id", some l.id.toJson), ("issuerId", some l.issuer.toJson),
    ("purpose", some l.purpose.toJson), ("statusSize", some l.width.toJson),
    ("totalEntries", some (.nat l.capacity.toNat)), ("usedEntries", some (.nat l.used.toNat)),
    ("encodedList", some (.string l.encodedList)),
    ("ttl", l.ttl.map fun n => .nat n.toNat), ("metadata", l.metadata.map .object),
    ("createdAt", some l.createdAt.toJson), ("updatedAt", some l.updatedAt.toJson)]

/-- **A stored list is read back as it was written.** -/
theorem undoes : Undoes ofJson toJson := by
  refine ⟨?_, fun _ h => nomatch h⟩
  intro l
  have hnames : (l.members.map Prod.fst).Nodup := by
    simp [members]
  have hcreated : (written l.members).field? "createdAt" Timestamp.ofJson =
      .ok (some l.createdAt) := field?_written hnames Timestamp.undoes rfl
  have htext : (written l.members).field? "encodedList" Reader.string = .ok (some l.encodedList) :=
    field?_written hnames string_undoes rfl
  have hid : (written l.members).field? "id" ListId.ofJson = .ok (some l.id) :=
    field?_written hnames ListId.undoes rfl
  have hissuer : (written l.members).field? "issuerId" IssuerId.ofJson = .ok (some l.issuer) :=
    field?_written hnames IssuerId.undoes rfl
  have hmetadata : (written l.members).optional "metadata" Reader.members = .ok l.metadata :=
    optional_written hnames members_undoes rfl
  have hpurpose : (written l.members).field? "purpose" Purpose.ofJson = .ok (some l.purpose) :=
    field?_written hnames Purpose.undoes rfl
  have hwidth : (written l.members).field? "statusSize" SlotWidth.ofJson = .ok (some l.width) :=
    field?_written hnames SlotWidth.undoes rfl
  have hcapacity : (written l.members).field? "totalEntries" Reader.u64 = .ok (some l.capacity) :=
    field?_written hnames u64_undoes rfl
  have httl : (written l.members).optional "ttl" Reader.u64 = .ok l.ttl :=
    optional_written hnames u64_undoes rfl
  have hupdated : (written l.members).field? "updatedAt" Timestamp.ofJson =
      .ok (some l.updatedAt) := field?_written hnames Timestamp.undoes rfl
  have hused : (written l.members).field? "usedEntries" Reader.u64 = .ok (some l.used) :=
    field?_written hnames u64_undoes rfl
  show ofMembers (written l.members) = .ok l
  unfold ofMembers
  simp only [hcreated, htext, hid, hissuer, hmetadata, hpurpose, hwidth, hcapacity, httl, hupdated,
    hused]
  rfl

end StatusList

/-! ## Entries -/

namespace EntryRequest

/-- The members of a request for an entry. -/
def members (r : EntryRequest) : List (String × Option Json) :=
  [("credentialId", some r.credential.toJson), ("statusListId", some r.list.toJson),
    ("statusListIndex", some (.nat r.index.toNat)), ("statusSize", some r.width.toJson),
    ("purpose", some r.purpose.toJson)]

theorem undoes : Undoes ofJson toJson := by
  refine ⟨?_, fun _ h => nomatch h⟩
  intro r
  have hnames : (r.members.map Prod.fst).Nodup := by
    simp [members]
  have hcredential : (written r.members).field? "credentialId" CredentialId.ofJson =
      .ok (some r.credential) := field?_written hnames CredentialId.undoes rfl
  have hpurpose : (written r.members).field? "purpose" Purpose.ofJson = .ok (some r.purpose) :=
    field?_written hnames Purpose.undoes rfl
  have hlist : (written r.members).field? "statusListId" ListId.ofJson = .ok (some r.list) :=
    field?_written hnames ListId.undoes rfl
  have hindex : (written r.members).field? "statusListIndex" Reader.u64 = .ok (some r.index) :=
    field?_written hnames u64_undoes rfl
  have hwidth : (written r.members).field? "statusSize" SlotWidth.ofJson = .ok (some r.width) :=
    field?_written hnames SlotWidth.undoes rfl
  show ofMembers (written r.members) = .ok r
  unfold ofMembers
  simp only [hcredential, hpurpose, hlist, hindex, hwidth]
  rfl

end EntryRequest

namespace StatusEntry

/-- The members of an entry. -/
def members (e : StatusEntry) : List (String × Option Json) :=
  [("id", some e.id.toJson), ("credentialId", some e.credential.toJson),
    ("statusListId", some e.list.toJson), ("statusListIndex", some (.nat e.index.toNat)),
    ("statusSize", some e.width.toJson), ("purpose", some e.purpose.toJson),
    ("currentStatus", some (.nat e.status.toNat)), ("createdAt", some e.createdAt.toJson),
    ("updatedAt", some e.updatedAt.toJson)]

/-- **A stored entry is read back as it was written.** -/
theorem undoes : Undoes ofJson toJson := by
  refine ⟨?_, fun _ h => nomatch h⟩
  intro e
  have hnames : (e.members.map Prod.fst).Nodup := by
    simp [members]
  have hcreated : (written e.members).field? "createdAt" Timestamp.ofJson =
      .ok (some e.createdAt) := field?_written hnames Timestamp.undoes rfl
  have hcredential : (written e.members).field? "credentialId" CredentialId.ofJson =
      .ok (some e.credential) := field?_written hnames CredentialId.undoes rfl
  have hstatus : (written e.members).field? "currentStatus" Reader.u8 = .ok (some e.status) :=
    field?_written hnames u8_undoes rfl
  have hid : (written e.members).field? "id" EntryId.ofJson = .ok (some e.id) :=
    field?_written hnames EntryId.undoes rfl
  have hpurpose : (written e.members).field? "purpose" Purpose.ofJson = .ok (some e.purpose) :=
    field?_written hnames Purpose.undoes rfl
  have hlist : (written e.members).field? "statusListId" ListId.ofJson = .ok (some e.list) :=
    field?_written hnames ListId.undoes rfl
  have hindex : (written e.members).field? "statusListIndex" Reader.u64 = .ok (some e.index) :=
    field?_written hnames u64_undoes rfl
  have hwidth : (written e.members).field? "statusSize" SlotWidth.ofJson = .ok (some e.width) :=
    field?_written hnames SlotWidth.undoes rfl
  have hupdated : (written e.members).field? "updatedAt" Timestamp.ofJson =
      .ok (some e.updatedAt) := field?_written hnames Timestamp.undoes rfl
  show ofMembers (written e.members) = .ok e
  unfold ofMembers
  simp only [hcreated, hcredential, hstatus, hid, hpurpose, hlist, hindex, hwidth, hupdated]
  rfl

end StatusEntry

/-! ## Changes -/

namespace StatusUpdate

/-- The members of a request for a change. -/
def members (u : StatusUpdate) : List (String × Option Json) :=
  [("credentialId", some u.credential.toJson), ("status", some (.nat u.status.toNat)),
    ("purpose", some u.purpose.toJson), ("reason", u.reason.map .string)]

theorem undoes : Undoes ofJson toJson := by
  refine ⟨?_, fun _ h => nomatch h⟩
  intro u
  have hnames : (u.members.map Prod.fst).Nodup := by
    simp [members]
  have hcredential : (written u.members).field? "credentialId" CredentialId.ofJson =
      .ok (some u.credential) := field?_written hnames CredentialId.undoes rfl
  have hpurpose : (written u.members).field? "purpose" Purpose.ofJson = .ok (some u.purpose) :=
    field?_written hnames Purpose.undoes rfl
  have hreason : (written u.members).optional "reason" Reader.string = .ok u.reason :=
    optional_written hnames string_undoes rfl
  have hstatus : (written u.members).field? "status" Reader.u32 = .ok (some u.status) :=
    field?_written hnames u32_undoes rfl
  show ofMembers (written u.members) = .ok u
  unfold ofMembers
  simp only [hcredential, hpurpose, hreason, hstatus]
  rfl

end StatusUpdate

namespace UpdateResult

/-- The members of an outcome. -/
def members (r : UpdateResult) : List (String × Option Json) :=
  [("success", some (.bool r.success)), ("statusEntry", r.entry.map StatusEntry.toJson),
    ("error", r.error.map .string)]

theorem undoes : Undoes ofJson toJson := by
  refine ⟨?_, fun _ h => nomatch h⟩
  intro r
  have hnames : (r.members.map Prod.fst).Nodup := by
    simp [members]
  have herror : (written r.members).optional "error" Reader.string = .ok r.error :=
    optional_written hnames string_undoes rfl
  have hentry : (written r.members).optional "statusEntry" StatusEntry.ofJson = .ok r.entry :=
    optional_written hnames StatusEntry.undoes rfl
  have hsuccess : (written r.members).field? "success" Reader.boolean = .ok (some r.success) :=
    field?_written hnames boolean_undoes rfl
  show ofMembers (written r.members) = .ok r
  unfold ofMembers
  simp only [herror, hentry, hsuccess]
  rfl

end UpdateResult

end StatusRegistry

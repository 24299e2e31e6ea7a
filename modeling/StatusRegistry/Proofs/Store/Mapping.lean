import StatusRegistry.Proofs.Store.Transaction

/-!
# Rows and records

Which rows stand for records, and that nothing is lost between the two.  What is written for a
record is read as that record, and whatever else stands in a table is either the record that its
columns describe or reported with its table and its identifier.

* `ListRow.Valid`, `EntryRow.Valid`: the rows that stand for records;
* `ListRow.exists_reads_iff`, `EntryRow.exists_reads_iff`: these are the rows that describe one;
* `createList_inserts`, `createEntry_inserts`: the rows that are inserted are those of the records
  that were made;
* `rows_exact`: rows and records, in both directions.
-/

set_option autoImplicit false

namespace StatusRegistry

/-! ## Columns that hold something -/

theorem exists_unsigned_iff {i : Int64} : (∃ n : UInt64, (n.toNat : Int) = i.toInt) ↔ 0 ≤ i := by
  have hi := i.toInt_lt
  rw [Int64.le_iff_toInt_le]
  constructor
  · rintro ⟨n, hn⟩
    rw [← hn]
    exact Int.natCast_nonneg _
  · intro h
    refine ⟨.ofNat i.toInt.toNat, ?_⟩
    have hzero : (0 : Int64).toInt = 0 := rfl
    rw [UInt64.toNat_ofNat', Nat.mod_eq_of_lt (by omega)]
    omega

theorem exists_optional_iff {i : Option Int64} :
    (∃ n : Option UInt64, n.map (fun k => (k.toNat : Int)) = i.map Int64.toInt) ↔
      ∀ k, i = some k → 0 ≤ k := by
  cases i with
  | none => exact iff_of_true ⟨none, rfl⟩ nofun
  | some k =>
    constructor
    · rintro ⟨_ | n, h⟩ _ ⟨⟩
      · cases h
      · exact exists_unsigned_iff.mp ⟨n, Option.some.inj h⟩
    · intro h
      obtain ⟨n, hn⟩ := exists_unsigned_iff.mpr (h k rfl)
      exact ⟨some n, congrArg some hn⟩

theorem exists_byte_iff {i : Int16} :
    (∃ b : UInt8, (b.toNat : Int) = i.toInt) ↔ 0 ≤ i.toInt ∧ i.toInt ≤ 255 := by
  constructor
  · rintro ⟨b, hb⟩
    have := b.toNat_lt
    omega
  · rintro ⟨hge, hle⟩
    refine ⟨.ofNat i.toInt.toNat, ?_⟩
    rw [UInt8.toNat_ofNat', Nat.mod_eq_of_lt (by omega)]
    omega

theorem exists_width_iff {i : Int16} :
    (∃ w : SlotWidth, (w.bits : Int) = i.toInt) ↔
      i.toInt = 1 ∨ i.toInt = 2 ∨ i.toInt = 4 ∨ i.toInt = 8 := by
  constructor
  · rintro ⟨w, hw⟩
    cases w <;> simp_all [SlotWidth.bits]
  · rintro (h | h | h | h)
    · exact ⟨.one, h.symm⟩
    · exact ⟨.two, h.symm⟩
    · exact ⟨.four, h.symm⟩
    · exact ⟨.eight, h.symm⟩

theorem exists_purpose_iff {s : String} :
    (∃ p : Purpose, p.text = s) ↔
      s = "revocation" ∨ s = "suspension" ∨ s = "refresh" ∨ s = "message" := by
  constructor
  · rintro ⟨p, rfl⟩
    cases p <;> simp [Purpose.text]
  · rintro (rfl | rfl | rfl | rfl)
    · exact ⟨.revocation, rfl⟩
    · exact ⟨.suspension, rfl⟩
    · exact ⟨.refresh, rfl⟩
    · exact ⟨.message, rfl⟩

theorem exists_metadata_iff {j : Option Json} :
    (∃ metadata : Option Json.Members,
      j = metadata.map .object ∨ metadata = none ∧ j = some .null) ↔
      j = none ∨ j = some .null ∨ ∃ ms, j = some (.object ms) := by
  constructor
  · rintro ⟨_ | ms, rfl | ⟨h, rfl⟩⟩
    · exact .inl rfl
    · exact .inr (.inl rfl)
    · exact .inr (.inr ⟨ms, rfl⟩)
    · cases h
  · rintro (rfl | rfl | ⟨ms, rfl⟩)
    · exact ⟨none, .inl rfl⟩
    · exact ⟨none, .inr ⟨rfl, rfl⟩⟩
    · exact ⟨some ms, .inl rfl⟩

/-! ## Rows of lists -/

namespace ListRow

/-- The rows that stand for lists. -/
structure Valid (row : ListRow) : Prop where
  issuer : Text.blank row.issuer = false
  purpose : row.purpose = "revocation" ∨ row.purpose = "suspension" ∨ row.purpose = "refresh" ∨
    row.purpose = "message"
  width : row.width.toInt = 1 ∨ row.width.toInt = 2 ∨ row.width.toInt = 4 ∨ row.width.toInt = 8
  capacity : 0 ≤ row.capacity
  used : 0 ≤ row.used
  ttl : ∀ n, row.ttl = some n → 0 ≤ n
  metadata : row.metadata = none ∨ row.metadata = some .null ∨
    ∃ ms, row.metadata = some (.object ms)

/-- A row describes a list iff it stands for one. -/
theorem exists_reads_iff {row : ListRow} : (∃ l, row.Reads l) ↔ row.Valid := by
  constructor
  · rintro ⟨l, h⟩
    exact ⟨h.issuer_eq ▸ l.issuer.notBlank, exists_purpose_iff.mp ⟨_, h.purpose_eq⟩,
      exists_width_iff.mp ⟨_, h.width_eq⟩, exists_unsigned_iff.mp ⟨_, h.capacity_eq⟩,
      exists_unsigned_iff.mp ⟨_, h.used_eq⟩, exists_optional_iff.mp ⟨_, h.ttl_eq⟩,
      exists_metadata_iff.mp ⟨_, h.metadata_eq⟩⟩
  · intro h
    obtain ⟨purpose, hpurpose⟩ := exists_purpose_iff.mpr h.purpose
    obtain ⟨width, hwidth⟩ := exists_width_iff.mpr h.width
    obtain ⟨capacity, hcapacity⟩ := exists_unsigned_iff.mpr h.capacity
    obtain ⟨used, hused⟩ := exists_unsigned_iff.mpr h.used
    obtain ⟨ttl, httl⟩ := exists_optional_iff.mpr h.ttl
    obtain ⟨metadata, hmetadata⟩ := exists_metadata_iff.mpr h.metadata
    exact ⟨⟨⟨row.id⟩, ⟨row.issuer, h.issuer⟩, purpose, width, capacity, used, row.encodedList, ttl,
      metadata, .ofInstant row.createdAt, .ofInstant row.updatedAt⟩,
      rfl, rfl, hpurpose, hwidth, hcapacity, hused, rfl, httl, hmetadata, rfl, rfl⟩

/-- **A row stands for the list that its columns describe, or is reported as it is.** -/
theorem toList_cases (row : ListRow) :
    (row.Valid ∧ ∃ l, row.toList = .ok l ∧ row.Reads l) ∨
      ¬ row.Valid ∧ ∃ reason, row.toList = .error (.corrupt .lists row.id reason) := by
  by_cases hvalid : row.Valid
  · obtain ⟨l, hl⟩ := exists_reads_iff.mpr hvalid
    exact .inl ⟨hvalid, l, toList_eq_ok_iff.mpr hl, hl⟩
  · refine .inr ⟨hvalid, ?_⟩
    cases hrecord : row.record with
    | error reason => exact ⟨reason, mapError_eq_error_iff.mpr ⟨reason, hrecord, rfl⟩⟩
    | ok l =>
      exact absurd (exists_reads_iff.mp ⟨l, toList_eq_ok_iff.mp (mapError_eq_ok_iff.mpr hrecord)⟩)
        hvalid

end ListRow

/-! ## Rows of entries -/

namespace EntryRow

/-- The rows that stand for entries. -/
structure Valid (row : EntryRow) : Prop where
  credential : Text.blank row.credential = false
  index : 0 ≤ row.index
  width : row.width.toInt = 1 ∨ row.width.toInt = 2 ∨ row.width.toInt = 4 ∨ row.width.toInt = 8
  purpose : row.purpose = "revocation" ∨ row.purpose = "suspension" ∨ row.purpose = "refresh" ∨
    row.purpose = "message"
  status : 0 ≤ row.status.toInt ∧ row.status.toInt ≤ 255

/-- A row describes an entry iff it stands for one. -/
theorem exists_reads_iff {row : EntryRow} : (∃ e, row.Reads e) ↔ row.Valid := by
  constructor
  · rintro ⟨e, h⟩
    exact ⟨h.credential_eq ▸ e.credential.notBlank, exists_unsigned_iff.mp ⟨_, h.index_eq⟩,
      exists_width_iff.mp ⟨_, h.width_eq⟩, exists_purpose_iff.mp ⟨_, h.purpose_eq⟩,
      exists_byte_iff.mp ⟨_, h.status_eq⟩⟩
  · intro h
    obtain ⟨index, hindex⟩ := exists_unsigned_iff.mpr h.index
    obtain ⟨width, hwidth⟩ := exists_width_iff.mpr h.width
    obtain ⟨purpose, hpurpose⟩ := exists_purpose_iff.mpr h.purpose
    obtain ⟨status, hstatus⟩ := exists_byte_iff.mpr h.status
    exact ⟨⟨⟨row.id⟩, ⟨row.credential, h.credential⟩, ⟨row.list⟩, index, width, purpose, status,
      .ofInstant row.createdAt, .ofInstant row.updatedAt⟩,
      rfl, rfl, rfl, hindex, hwidth, hpurpose, hstatus, rfl, rfl⟩

/-- **A row stands for the entry that its columns describe, or is reported as it is.** -/
theorem toEntry_cases (row : EntryRow) :
    (row.Valid ∧ ∃ e, row.toEntry = .ok e ∧ row.Reads e) ∨
      ¬ row.Valid ∧ ∃ reason, row.toEntry = .error (.corrupt .entries row.id reason) := by
  by_cases hvalid : row.Valid
  · obtain ⟨e, he⟩ := exists_reads_iff.mpr hvalid
    exact .inl ⟨hvalid, e, toEntry_eq_ok_iff.mpr he, he⟩
  · refine .inr ⟨hvalid, ?_⟩
    cases hrecord : row.record with
    | error reason => exact ⟨reason, mapError_eq_error_iff.mpr ⟨reason, hrecord, rfl⟩⟩
    | ok e =>
      exact absurd
        (exists_reads_iff.mp ⟨e, toEntry_eq_ok_iff.mp (mapError_eq_ok_iff.mpr hrecord)⟩) hvalid

end EntryRow

/-! ## The rows that are inserted -/

namespace Database

open Session

variable {log : List Exchange}

/-- The row of a list that is inserted is the row of the list that was made. -/
theorem createList_inserts {r : ListRequest} {stamp : Stamp} {result : Except StoreError StatusList}
    (h : (createList r stamp).run.Says log result) {row : ListRow}
    (hrow : .insertList row ∈ log.map (·.statement)) :
    ∃ l, StatusList.create r ⟨stamp.fresh⟩ stamp.now = .ok l ∧ ListRow.ofList l = .ok row ∧
      ∀ made, result = .ok made → made = l := by
  unfold createList at h
  rcases says_lift_bind_iff.mp h with ⟨e, -, rfl, -⟩ | ⟨l, hcreate, h⟩
  · cases hrow
  rcases says_lift_bind_iff.mp h with ⟨e, -, rfl, -⟩ | ⟨written, hwritten, h⟩
  · cases hrow
  have hcreate := mapError_eq_ok_iff.mp hcreate
  rcases says_query_bind_iff.mp h with ⟨fault, rfl, rfl⟩ | ⟨⟨⟩, rest, rfl, hend⟩
  · obtain rfl : row = written := by simpa using hrow
    exact ⟨l, hcreate, hwritten, fun made hmade => by cases hmade⟩
  · obtain ⟨rfl, rfl⟩ := says_pure_iff.mp hend
    obtain rfl : row = written := by simpa using hrow
    exact ⟨l, hcreate, hwritten, fun made hmade => (Except.ok.inj hmade).symm⟩

/-- The row of an entry that is inserted is the row of the entry that was made. -/
theorem createEntry_inserts {r : EntryRequest} {stamp : Stamp}
    {result : Except StoreError StatusEntry} (h : (createEntry r stamp).run.Says log result)
    {row : EntryRow} (hrow : .insertEntry row ∈ log.map (·.statement)) :
    ∃ l e l', allocate l r stamp = .ok (e, l') ∧ EntryRow.ofEntry e = .ok row ∧
      ∀ made, result = .ok made → made = e := by
  unfold createEntry at h
  rcases says_query_bind_iff.mp h with ⟨fault, rfl, rfl⟩ | ⟨⟨⟩, log, rfl, hselect⟩
  · simp at hrow
  rcases says_selectList_bind_iff.mp hselect with ⟨fault, rfl, rfl⟩ | ⟨locked, e, rfl, -, rfl⟩ |
    ⟨locked, found, log, rfl, hlocked, hfound⟩
  · simp at hrow
  · simp at hrow
  cases found with
  | none =>
    obtain ⟨rfl, rfl⟩ := says_throw_iff.mp hfound
    simp at hrow
  | some l =>
    obtain ⟨locked, rfl, hlist⟩ := listOfRow_eq_some_iff.mp hlocked
    rcases says_lift_bind_iff.mp hfound with ⟨e, -, rfl, rfl⟩ | ⟨⟨e, l'⟩, hallocate, hnext⟩
    · simp at hrow
    obtain ⟨used, written, hused, hwrites, -⟩ := handsOut_of_allocate hlist hallocate
    simp only [hused, insertEntry_eq hwrites] at hnext
    rcases says_lift_bind_iff.mp hnext with ⟨e, hoverflow, -⟩ | ⟨used, ⟨⟩, hsays⟩
    · cases hoverflow
    obtain ⟨hwriting, hend⟩ := says_writes (fun r => ∃ e, r = .ok e) ⟨_, rfl⟩ (by simp) hsays
    obtain rfl : row = written := by
      cases hwriting with
      | first_fault fault => simp at hrow
      | second_fault a fault => simpa using hrow
      | committed a b answer => simpa using hrow
    refine ⟨l, e, l', hallocate, EntryRow.ofEntry_eq_ok_iff.mpr hwrites, ?_⟩
    rintro made rfl
    rcases hend with hend | ⟨fault, hend | hend⟩
    · exact Except.ok.inj hend
    · cases hend
    · cases hend

/-- **Rows and records are the same things in two forms.**  A record in whole seconds whose numbers
fit their columns has a row, and is what that row stands for.  A row that stands for a record stands
for the one that its columns describe, and every other row is reported with its table and its
identifier.  What is inserted is the row of the record that is made. -/
theorem rows_exact :
    (∀ l : StatusList, l.createdAt.Whole → l.updatedAt.Whole → l.capacity.toNat < 2 ^ 63 →
      l.used.toNat < 2 ^ 63 → (∀ n, l.ttl = some n → n.toNat < 2 ^ 63) →
      ∃ row, ListRow.ofList l = .ok row ∧ row.toList = .ok l) ∧
    (∀ e : StatusEntry, e.createdAt.Whole → e.updatedAt.Whole → e.index.toNat < 2 ^ 63 →
      ∃ row, EntryRow.ofEntry e = .ok row ∧ row.toEntry = .ok e) ∧
    (∀ row : ListRow, (row.Valid ∧ ∃ l, row.toList = .ok l ∧ row.Reads l) ∨
      ¬ row.Valid ∧ ∃ reason, row.toList = .error (.corrupt .lists row.id reason)) ∧
    (∀ row : EntryRow, (row.Valid ∧ ∃ e, row.toEntry = .ok e ∧ row.Reads e) ∨
      ¬ row.Valid ∧ ∃ reason, row.toEntry = .error (.corrupt .entries row.id reason)) ∧
    (∀ r stamp log result row, (createList r stamp).run.Says log result →
      .insertList row ∈ log.map (·.statement) →
      ∃ l, StatusList.create r ⟨stamp.fresh⟩ stamp.now = .ok l ∧ ListRow.ofList l = .ok row ∧
        ∀ made, result = .ok made → made = l) ∧
    ∀ r stamp log result row, (createEntry r stamp).run.Says log result →
      .insertEntry row ∈ log.map (·.statement) →
      ∃ l e l', allocate l r stamp = .ok (e, l') ∧ EntryRow.ofEntry e = .ok row ∧
        ∀ made, result = .ok made → made = e := by
  refine ⟨?_, ?_, ListRow.toList_cases, EntryRow.toEntry_cases,
    fun _ _ _ _ _ h => createList_inserts h, fun _ _ _ _ _ h => createEntry_inserts h⟩
  · intro l hcreated hupdated hcapacity hused httl
    obtain ⟨row, hrow⟩ := ListRow.exists_writes hcapacity hused httl
    exact ⟨row, ListRow.ofList_eq_ok_iff.mpr hrow,
      ListRow.toList_of_writes hrow hcreated hupdated⟩
  · intro e hcreated hupdated hindex
    obtain ⟨row, hrow⟩ := EntryRow.exists_writes hindex
    exact ⟨row, EntryRow.ofEntry_eq_ok_iff.mpr hrow,
      EntryRow.toEntry_of_writes hrow hcreated hupdated⟩

/-- The sample list with the greatest numbers that fit is read back from its row; a status beyond a
byte is reported, and not cut to one. -/
theorem sample_rows_exact :
    (∃ row, ListRow.ofList { Memory.Sample.list with
        used := 9223372036854775807, ttl := some 9223372036854775807 } = .ok row ∧
      row.toList = .ok { Memory.Sample.list with
        used := 9223372036854775807, ttl := some 9223372036854775807 }) ∧
      (∃ row, EntryRow.ofEntry Memory.Sample.entry = .ok row ∧
        row.toEntry = .ok Memory.Sample.entry) ∧
      (∃ reason, EntryRow.toEntry { Sample.entryRow with status := 256 } =
        .error (.corrupt .entries ⟨2⟩ reason)) ∧
      ∃ l e l', allocate l Memory.Sample.request (Memory.Sample.stamp 2) = .ok (e, l') ∧
        EntryRow.ofEntry e = .ok Sample.entryRow := by
  obtain ⟨hlists, hentries, -, hrows, -, hinserted⟩ := rows_exact
  refine ⟨hlists _ rfl rfl (by decide) (by decide) ?_, hentries _ rfl rfl (by decide), ?_, ?_⟩
  · rintro _ ⟨⟩
    decide
  · rcases hrows { Sample.entryRow with status := 256 } with ⟨hvalid, -⟩ | ⟨-, hcorrupt⟩
    · exact absurd hvalid.status.2 (by decide)
    · exact hcorrupt
  · obtain ⟨l, e, l', hallocate, hrow, -⟩ :=
      hinserted _ _ _ _ Sample.entryRow Sample.says_slotLog (by simp [Sample.slotLog])
    exact ⟨l, e, l', hallocate, hrow⟩

end Database

end StatusRegistry

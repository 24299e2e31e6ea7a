import Mathlib.Algebra.GroupWithZero.Nat
import StatusRegistry.Proofs.Steps
import StatusRegistry.Store.Row

/-!
# Records in columns

What the columns of a row hold of a record, and that the record is read back from them.

* `columnOf_eq_ok_iff`, `narrow64_eq_ok_iff`: a number and its column are the same number, so each
  is read back from the other;
* `Timestamp.ofInstant_instant`, `Timestamp.columnTime_instant`: a time in whole seconds loses
  nothing in its column;
* `ListRow.Writes`, `EntryRow.Writes`: what the row of a record holds;
* `ListRow.toList_eq_ok_iff`, `EntryRow.toEntry_eq_ok_iff`: a row stands for the record that its
  columns describe, whoever wrote it;
* `ListRow.toList_of_writes`, `EntryRow.toEntry_of_writes`: a record in whole seconds is read back
  from its row.
-/

set_option autoImplicit false

namespace StatusRegistry

/-! ## Numbers -/

theorem narrow_eq_ok_iff {greatest n : Nat} {i : Int} :
    narrow greatest i = .ok n ↔ (n : Int) = i ∧ n ≤ greatest := by
  unfold narrow
  split
  · simp only [reduceCtorEq, false_iff]
    omega
  · split
    · simp only [reduceCtorEq, false_iff]
      omega
    · simp only [Except.ok.injEq]
      omega

theorem narrow64_eq_ok_iff {i : Int64} {n : UInt64} :
    narrow64 i = .ok n ↔ (n.toNat : Int) = i.toInt := by
  have hn := n.toNat_lt
  have hi := i.toInt_lt
  constructor
  · intro h
    unfold narrow64 at h
    cases hnarrow : narrow 18446744073709551615 i.toInt with
    | error reason =>
      rw [hnarrow] at h
      cases h
    | ok k =>
      rw [hnarrow] at h
      cases h
      obtain ⟨hk, hle⟩ := narrow_eq_ok_iff.mp hnarrow
      rw [UInt64.toNat_ofNat', Nat.mod_eq_of_lt (by omega), hk]
  · intro h
    have hnarrow : narrow 18446744073709551615 i.toInt = .ok n.toNat :=
      narrow_eq_ok_iff.mpr ⟨h, by omega⟩
    unfold narrow64
    rw [hnarrow]
    exact congrArg Except.ok UInt64.ofNat_toNat

/-- A number that fits its column is the number of the column. -/
theorem columnOf_eq_ok_iff {n : UInt64} {i : Int64} :
    columnOf n = .ok i ↔ i.toInt = n.toNat := by
  have hi := i.toInt_lt
  unfold columnOf
  split
  · rename_i hle
    have hto : (Int64.ofNat n.toNat).toInt = n.toNat := Int64.toInt_ofNat_of_lt (by omega)
    rw [Except.ok.injEq, ← Int64.toInt_inj, hto]
    exact eq_comm
  · simp only [reduceCtorEq, false_iff]
    omega

/-- A number that fits a column has one. -/
theorem columnOf_ok {n : UInt64} (h : n.toNat < 2 ^ 63) : ∃ i, columnOf n = .ok i := by
  unfold columnOf
  rw [if_pos (by omega)]
  exact ⟨_, rfl⟩

/-- Numbers are found in the same order in their columns. -/
theorem column_lt_iff {i j : Int64} {m n : UInt64} (hi : i.toInt = m.toNat)
    (hj : j.toInt = n.toNat) : i < j ↔ m < n := by
  rw [Int64.lt_iff_toInt_lt, UInt64.lt_iff_toNat_lt, hi, hj]
  omega

theorem optionalColumnOf_ok {n : Option UInt64} (h : ∀ k, n = some k → k.toNat < 2 ^ 63) :
    ∃ i, optionalColumnOf n = .ok i := by
  cases n with
  | none => exact ⟨none, rfl⟩
  | some k =>
    obtain ⟨i, hi⟩ := columnOf_ok (h k rfl)
    exact ⟨some i, by simp only [optionalColumnOf, hi, Except.map]⟩

/-- An optional number and its column are the same number, or both missing. -/
theorem mapM_narrow64_eq_ok_iff {i : Option Int64} {n : Option UInt64} :
    i.mapM narrow64 = .ok n ↔ n.map (fun k => (k.toNat : Int)) = i.map Int64.toInt := by
  cases i with
  | none =>
    have hnone : (none : Option Int64).mapM narrow64 = .ok none := rfl
    rw [hnone, Except.ok.injEq]
    cases n with
    | none => exact ⟨fun _ => rfl, fun _ => rfl⟩
    | some k => exact ⟨nofun, nofun⟩
  | some c =>
    have hsome : (some c).mapM narrow64 = (narrow64 c).map some := rfl
    rw [hsome]
    cases n with
    | none =>
      refine ⟨fun h => ?_, nofun⟩
      cases hread : narrow64 c with
      | error reason =>
        rw [hread] at h
        cases h
      | ok k =>
        rw [hread] at h
        cases h
    | some k =>
      simp only [Option.map_some, Option.some.injEq, ← narrow64_eq_ok_iff]
      cases hread : narrow64 c with
      | error reason => exact ⟨nofun, nofun⟩
      | ok m =>
        refine ⟨fun h => ?_, fun h => ?_⟩
        · cases h
          rfl
        · cases h
          rfl

theorem optionalColumnOf_eq_ok {n : Option UInt64} {i : Option Int64}
    (h : optionalColumnOf n = .ok i) : n.map (fun k => (k.toNat : Int)) = i.map Int64.toInt := by
  cases n with
  | none =>
    cases h
    rfl
  | some n =>
    cases hcolumn : columnOf n with
    | error err =>
      simp only [optionalColumnOf, hcolumn, Except.map] at h
      cases h
    | ok c =>
      simp only [optionalColumnOf, hcolumn, Except.map] at h
      cases h
      rw [Option.map_some, Option.map_some, columnOf_eq_ok_iff.mp hcolumn]

/-- A byte fits its column. -/
theorem toInt_byteColumn (b : UInt8) : (Int16.ofNat b.toNat).toInt = b.toNat := by
  have hb := b.toNat_lt
  exact Int16.toInt_ofNat_of_lt (by omega)

theorem narrow8_eq_ok_iff {i : Int16} {b : UInt8} :
    narrow8 i = .ok b ↔ (b.toNat : Int) = i.toInt := by
  have hb := b.toNat_lt
  constructor
  · intro h
    unfold narrow8 at h
    cases hnarrow : narrow 255 i.toInt with
    | error reason =>
      rw [hnarrow] at h
      cases h
    | ok k =>
      rw [hnarrow] at h
      cases h
      obtain ⟨hk, hle⟩ := narrow_eq_ok_iff.mp hnarrow
      rw [UInt8.toNat_ofNat', Nat.mod_eq_of_lt (by omega), hk]
  · intro h
    have hnarrow : narrow 255 i.toInt = .ok b.toNat := narrow_eq_ok_iff.mpr ⟨h, by omega⟩
    unfold narrow8
    rw [hnarrow]
    exact congrArg Except.ok UInt8.ofNat_toNat

/-! ## Names, widths, annotations and times -/

theorem IssuerId.text_inj {i j : IssuerId} : i.text = j.text ↔ i = j := by
  rw [← ofText_eq_ok_iff, ofText_text, Except.ok.injEq, eq_comm]

theorem CredentialId.text_inj {c d : CredentialId} : c.text = d.text ↔ c = d := by
  rw [← ofText_eq_ok_iff, ofText_text, Except.ok.injEq, eq_comm]

theorem Purpose.text_inj {p q : Purpose} : p.text = q.text ↔ p = q := by
  rw [← ofText_eq_ok_iff, ofText_text, Except.ok.injEq]

theorem widthOfColumn_widthColumn (w : SlotWidth) : widthOfColumn (widthColumn w) = .ok w := by
  cases w <;> rfl

theorem widthColumn_inj {v w : SlotWidth} : widthColumn v = widthColumn w ↔ v = w := by
  constructor
  · intro h
    have hread := widthOfColumn_widthColumn v
    rw [h, widthOfColumn_widthColumn] at hread
    exact (Except.ok.inj hread).symm
  · rintro rfl
    rfl

theorem widthOfColumn_eq_ok_iff {i : Int16} {w : SlotWidth} :
    widthOfColumn i = .ok w ↔ (w.bits : Int) = i.toInt := by
  have hbits := w.bits_le
  unfold widthOfColumn
  rw [bind_eq_ok_iff]
  constructor
  · rintro ⟨n, hn, hw⟩
    obtain rfl := SlotWidth.ofBits_eq_ok_iff.mp (mapError_eq_ok_iff.mp hw)
    exact (narrow_eq_ok_iff.mp hn).1
  · intro h
    exact ⟨w.bits, narrow_eq_ok_iff.mpr ⟨h, by omega⟩,
      mapError_eq_ok_iff.mpr (SlotWidth.ofBits_bits w)⟩

/-- Annotations and their column: the column of none may also hold null. -/
theorem metadataOfColumn_eq_ok_iff {j : Option Json} {metadata : Option Json.Members} :
    metadataOfColumn j = .ok metadata ↔
      j = metadata.map .object ∨ metadata = none ∧ j = some .null := by
  unfold metadataOfColumn
  split
  · cases metadata <;> simp
  · cases metadata <;> simp
  · cases metadata <;> simp [eq_comm]
  · rename_i value hnull hobject
    refine ⟨nofun, ?_⟩
    rintro (h | ⟨-, h⟩)
    · cases metadata with
      | none => cases h
      | some ms => exact absurd (Option.some.inj h) (hobject ms)
    · exact absurd (Option.some.inj h) hnull

/-- A timestamp in whole seconds is read back from its column. -/
theorem Timestamp.ofInstant_instant {t : Timestamp} (h : t.Whole) : ofInstant t.instant = t := by
  obtain ⟨⟨seconds, nanos, least, greatest, leap⟩⟩ := t
  have hzero : nanos = 0 := h
  subst hzero
  rfl

/-- A timestamp in whole seconds is what its column holds of it. -/
theorem Timestamp.columnTime_instant {t : Timestamp} (h : t.Whole) :
    columnTime t.instant = t.instant := by
  obtain ⟨⟨seconds, nanos, least, greatest, leap⟩⟩ := t
  have hzero : nanos = 0 := h
  subst hzero
  have hmicros : ((seconds - columnEpoch) * 1000000000 + ((0 : Nat) : Int)).tdiv 1000 =
      (seconds - columnEpoch) * 1000000 := by
    have hthousand : (seconds - columnEpoch) * 1000000000 + ((0 : Nat) : Int) =
        (seconds - columnEpoch) * 1000000 * 1000 := by omega
    rw [hthousand, Int.mul_tdiv_cancel _ (by decide)]
  have hseconds : columnEpoch + (seconds - columnEpoch) * 1000000 / 1000000 = seconds := by
    rw [Int.mul_ediv_cancel _ (by decide)]
    omega
  have hrest : (seconds - columnEpoch) * 1000000 % 1000000 * 1000 = 0 := by
    rw [Int.mul_emod_left, Int.zero_mul]
  have hbounds : (leastSecond ≤ seconds ∧ seconds ≤ greatestSecond) ∧
      ((0 : Int).toNat < 1000000000 ∨ (0 : Int).toNat < 2000000000 ∧ seconds % 60 = 59) :=
    ⟨⟨least, greatest⟩, .inl (by decide)⟩
  simp only [columnTime, hmicros, hseconds, hrest, Instant.of?, dif_pos hbounds, Option.getD_some]
  rfl

/-! ## Rows of lists -/

namespace ListRow

/-- What the row of a list holds. -/
structure Writes (row : ListRow) (l : StatusList) : Prop where
  id_eq : row.id = l.id.uuid
  issuer_eq : row.issuer = l.issuer.text
  purpose_eq : row.purpose = l.purpose.text
  width_eq : row.width = widthColumn l.width
  capacity_eq : row.capacity.toInt = l.capacity.toNat
  used_eq : row.used.toInt = l.used.toNat
  encodedList_eq : row.encodedList = l.encodedList
  ttl_eq : optionalColumnOf l.ttl = .ok row.ttl
  metadata_eq : row.metadata = l.metadata.map .object
  createdAt_eq : row.createdAt = l.createdAt.instant
  updatedAt_eq : row.updatedAt = l.updatedAt.instant

theorem ofList_eq_ok_iff {l : StatusList} {row : ListRow} :
    ofList l = .ok row ↔ row.Writes l := by
  constructor
  · intro h
    obtain ⟨capacity, hcapacity, h⟩ := bind_eq_ok_iff.mp h
    obtain ⟨used, hused, h⟩ := bind_eq_ok_iff.mp h
    obtain ⟨ttl, httl, h⟩ := bind_eq_ok_iff.mp h
    cases h
    exact ⟨rfl, rfl, rfl, rfl, columnOf_eq_ok_iff.mp hcapacity, columnOf_eq_ok_iff.mp hused, rfl,
      httl, rfl, rfl, rfl⟩
  · intro h
    obtain ⟨id, issuer, purpose, width, capacity, used, encodedList, ttl, metadata, createdAt,
      updatedAt⟩ := row
    obtain ⟨rfl, rfl, rfl, rfl, hcapacity, hused, rfl, httl, rfl, rfl, rfl⟩ := h
    simp only at hcapacity hused httl
    simp only [ofList, columnOf_eq_ok_iff.mpr hcapacity, columnOf_eq_ok_iff.mpr hused, httl, bind,
      Except.bind, pure, Except.pure]

/-- A list whose numbers fit their columns has a row. -/
theorem exists_writes {l : StatusList} (hcapacity : l.capacity.toNat < 2 ^ 63)
    (hused : l.used.toNat < 2 ^ 63) (httl : ∀ n, l.ttl = some n → n.toNat < 2 ^ 63) :
    ∃ row : ListRow, row.Writes l := by
  obtain ⟨capacity, hcapacity⟩ := columnOf_ok hcapacity
  obtain ⟨used, hused⟩ := columnOf_ok hused
  obtain ⟨ttl, httl⟩ := optionalColumnOf_ok httl
  exact ⟨⟨l.id.uuid, l.issuer.text, l.purpose.text, widthColumn l.width, capacity, used,
    l.encodedList, ttl, l.metadata.map .object, l.createdAt.instant, l.updatedAt.instant⟩,
    rfl, rfl, rfl, rfl, columnOf_eq_ok_iff.mp hcapacity, columnOf_eq_ok_iff.mp hused, rfl, httl,
    rfl, rfl, rfl⟩

/-- What a row says of the list that it stands for: every column as it is, but times to the
second. -/
structure Reads (row : ListRow) (l : StatusList) : Prop where
  id_eq : l.id.uuid = row.id
  issuer_eq : l.issuer.text = row.issuer
  purpose_eq : l.purpose.text = row.purpose
  width_eq : (l.width.bits : Int) = row.width.toInt
  capacity_eq : (l.capacity.toNat : Int) = row.capacity.toInt
  used_eq : (l.used.toNat : Int) = row.used.toInt
  encodedList_eq : l.encodedList = row.encodedList
  ttl_eq : l.ttl.map (fun n => (n.toNat : Int)) = row.ttl.map Int64.toInt
  metadata_eq : row.metadata = l.metadata.map .object ∨
    l.metadata = none ∧ row.metadata = some .null
  createdAt_eq : l.createdAt = .ofInstant row.createdAt
  updatedAt_eq : l.updatedAt = .ofInstant row.updatedAt

/-- **A row stands for the list that its columns describe, whoever wrote it, and for no other.** -/
theorem toList_eq_ok_iff {row : ListRow} {l : StatusList} : row.toList = .ok l ↔ row.Reads l := by
  rw [toList, mapError_eq_ok_iff, record]
  constructor
  · intro h
    obtain ⟨metadata, hmetadata, h⟩ := bind_eq_ok_iff.mp h
    obtain ⟨issuer, hissuer, h⟩ := bind_eq_ok_iff.mp h
    obtain ⟨purpose, hpurpose, h⟩ := bind_eq_ok_iff.mp h
    obtain ⟨width, hwidth, h⟩ := bind_eq_ok_iff.mp h
    obtain ⟨capacity, hcapacity, h⟩ := bind_eq_ok_iff.mp h
    obtain ⟨used, hused, h⟩ := bind_eq_ok_iff.mp h
    obtain ⟨ttl, httl, h⟩ := bind_eq_ok_iff.mp h
    cases h
    exact ⟨rfl, IssuerId.ofText_eq_ok_iff.mp (mapError_eq_ok_iff.mp hissuer),
      (Purpose.ofText_eq_ok_iff.mp (mapError_eq_ok_iff.mp hpurpose)).symm,
      widthOfColumn_eq_ok_iff.mp hwidth, narrow64_eq_ok_iff.mp hcapacity,
      narrow64_eq_ok_iff.mp hused, rfl, mapM_narrow64_eq_ok_iff.mp httl,
      metadataOfColumn_eq_ok_iff.mp hmetadata, rfl, rfl⟩
  · intro h
    obtain ⟨⟨id⟩, issuer, purpose, width, capacity, used, encodedList, ttl, metadata, createdAt,
      updatedAt⟩ := l
    obtain ⟨hid, hissuer, hpurpose, hwidth, hcapacity, hused, hencodedList, httl, hmetadata,
      hcreatedAt, hupdatedAt⟩ := h
    dsimp only at *
    subst hid hencodedList hcreatedAt hupdatedAt
    simp only [metadataOfColumn_eq_ok_iff.mpr hmetadata,
      mapError_eq_ok_iff.mpr (IssuerId.ofText_eq_ok_iff.mpr hissuer),
      mapError_eq_ok_iff.mpr (Purpose.ofText_eq_ok_iff.mpr hpurpose.symm),
      widthOfColumn_eq_ok_iff.mpr hwidth, narrow64_eq_ok_iff.mpr hcapacity,
      narrow64_eq_ok_iff.mpr hused, mapM_narrow64_eq_ok_iff.mpr httl, ok_bind]
    rfl

/-- **A list in whole seconds is read back from its row.** -/
theorem toList_of_writes {row : ListRow} {l : StatusList} (h : row.Writes l)
    (hcreated : l.createdAt.Whole) (hupdated : l.updatedAt.Whole) : row.toList = .ok l := by
  refine toList_eq_ok_iff.mpr ⟨h.id_eq.symm, h.issuer_eq.symm, h.purpose_eq.symm, ?_,
    h.capacity_eq.symm, h.used_eq.symm, h.encodedList_eq.symm, optionalColumnOf_eq_ok h.ttl_eq,
    .inl h.metadata_eq, ?_, ?_⟩
  · rw [← widthOfColumn_eq_ok_iff, h.width_eq, widthOfColumn_widthColumn]
  · rw [h.createdAt_eq, Timestamp.ofInstant_instant hcreated]
  · rw [h.updatedAt_eq, Timestamp.ofInstant_instant hupdated]

end ListRow

/-! ## Rows of entries -/

namespace EntryRow

/-- What the row of an entry holds. -/
structure Writes (row : EntryRow) (e : StatusEntry) : Prop where
  id_eq : row.id = e.id.uuid
  credential_eq : row.credential = e.credential.text
  list_eq : row.list = e.list.uuid
  index_eq : row.index.toInt = e.index.toNat
  width_eq : row.width = widthColumn e.width
  purpose_eq : row.purpose = e.purpose.text
  status_eq : row.status = .ofNat e.status.toNat
  createdAt_eq : row.createdAt = e.createdAt.instant
  updatedAt_eq : row.updatedAt = e.updatedAt.instant

theorem ofEntry_eq_ok_iff {e : StatusEntry} {row : EntryRow} :
    ofEntry e = .ok row ↔ row.Writes e := by
  constructor
  · intro h
    obtain ⟨index, hindex, h⟩ := bind_eq_ok_iff.mp h
    cases h
    exact ⟨rfl, rfl, rfl, columnOf_eq_ok_iff.mp hindex, rfl, rfl, rfl, rfl, rfl⟩
  · intro h
    obtain ⟨id, credential, list, index, width, purpose, status, createdAt, updatedAt⟩ := row
    obtain ⟨rfl, rfl, rfl, hindex, rfl, rfl, rfl, rfl, rfl⟩ := h
    simp only at hindex
    simp only [ofEntry, columnOf_eq_ok_iff.mpr hindex, bind, Except.bind, pure, Except.pure]

/-- An entry whose index fits its column has a row. -/
theorem exists_writes {e : StatusEntry} (hindex : e.index.toNat < 2 ^ 63) :
    ∃ row : EntryRow, row.Writes e := by
  obtain ⟨index, hindex⟩ := columnOf_ok hindex
  exact ⟨⟨e.id.uuid, e.credential.text, e.list.uuid, index, widthColumn e.width, e.purpose.text,
    .ofNat e.status.toNat, e.createdAt.instant, e.updatedAt.instant⟩,
    rfl, rfl, rfl, columnOf_eq_ok_iff.mp hindex, rfl, rfl, rfl, rfl, rfl⟩

/-- What a row says of the entry that it stands for: every column as it is, but times to the
second. -/
structure Reads (row : EntryRow) (e : StatusEntry) : Prop where
  id_eq : e.id.uuid = row.id
  credential_eq : e.credential.text = row.credential
  list_eq : e.list.uuid = row.list
  index_eq : (e.index.toNat : Int) = row.index.toInt
  width_eq : (e.width.bits : Int) = row.width.toInt
  purpose_eq : e.purpose.text = row.purpose
  status_eq : (e.status.toNat : Int) = row.status.toInt
  createdAt_eq : e.createdAt = .ofInstant row.createdAt
  updatedAt_eq : e.updatedAt = .ofInstant row.updatedAt

/-- **A row stands for the entry that its columns describe, whoever wrote it, and for no other.** -/
theorem toEntry_eq_ok_iff {row : EntryRow} {e : StatusEntry} :
    row.toEntry = .ok e ↔ row.Reads e := by
  rw [toEntry, mapError_eq_ok_iff, record]
  constructor
  · intro h
    obtain ⟨credential, hcredential, h⟩ := bind_eq_ok_iff.mp h
    obtain ⟨index, hindex, h⟩ := bind_eq_ok_iff.mp h
    obtain ⟨width, hwidth, h⟩ := bind_eq_ok_iff.mp h
    obtain ⟨purpose, hpurpose, h⟩ := bind_eq_ok_iff.mp h
    obtain ⟨status, hstatus, h⟩ := bind_eq_ok_iff.mp h
    cases h
    exact ⟨rfl, CredentialId.ofText_eq_ok_iff.mp (mapError_eq_ok_iff.mp hcredential), rfl,
      narrow64_eq_ok_iff.mp hindex, widthOfColumn_eq_ok_iff.mp hwidth,
      (Purpose.ofText_eq_ok_iff.mp (mapError_eq_ok_iff.mp hpurpose)).symm,
      narrow8_eq_ok_iff.mp hstatus, rfl, rfl⟩
  · intro h
    obtain ⟨⟨id⟩, credential, ⟨list⟩, index, width, purpose, status, createdAt, updatedAt⟩ := e
    obtain ⟨hid, hcredential, hlist, hindex, hwidth, hpurpose, hstatus, hcreatedAt, hupdatedAt⟩ := h
    dsimp only at *
    subst hid hlist hcreatedAt hupdatedAt
    simp only [mapError_eq_ok_iff.mpr (CredentialId.ofText_eq_ok_iff.mpr hcredential),
      narrow64_eq_ok_iff.mpr hindex, widthOfColumn_eq_ok_iff.mpr hwidth,
      mapError_eq_ok_iff.mpr (Purpose.ofText_eq_ok_iff.mpr hpurpose.symm),
      narrow8_eq_ok_iff.mpr hstatus, ok_bind]
    rfl

/-- **An entry in whole seconds is read back from its row.** -/
theorem toEntry_of_writes {row : EntryRow} {e : StatusEntry} (h : row.Writes e)
    (hcreated : e.createdAt.Whole) (hupdated : e.updatedAt.Whole) : row.toEntry = .ok e := by
  refine toEntry_eq_ok_iff.mpr ⟨h.id_eq.symm, h.credential_eq.symm, h.list_eq.symm,
    h.index_eq.symm, ?_, h.purpose_eq.symm, ?_, ?_, ?_⟩
  · rw [← widthOfColumn_eq_ok_iff, h.width_eq, widthOfColumn_widthColumn]
  · rw [h.status_eq, toInt_byteColumn]
  · rw [h.createdAt_eq, Timestamp.ofInstant_instant hcreated]
  · rw [h.updatedAt_eq, Timestamp.ofInstant_instant hupdated]

end EntryRow

end StatusRegistry

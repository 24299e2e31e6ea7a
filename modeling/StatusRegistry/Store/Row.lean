import StatusRegistry.Store.Error

/-!
# Rows

The two tables of a database, and how their rows stand for lists and entries.  Columns hold signed
integers and free text, so a row may stand for no record at all; it is then reported with its
table and its identifier, and never mended.

* `ListRow.ofList`, `EntryRow.ofEntry` give the row of a record, unless a number is too great for
  its column.
* `ListRow.toList`, `EntryRow.toEntry` give the record of a row; times are cut to the second.
* `columnTime`, `columnJson` say what is left of a time and of a JSON value in a column.
-/

set_option autoImplicit false

namespace StatusRegistry

/-! ## Columns -/

/-- A number of a column as a number from 0 to a greatest one, or why it is none. -/
def narrow (greatest : Nat) (i : Int) : Except String Nat :=
  if i < 0 then .error "number too small to fit in target type"
  else if (greatest : Int) < i then .error "number too large to fit in target type"
  else .ok i.toNat

/-- A number of a column as an unsigned 64-bit number. -/
def narrow64 (i : Int64) : Except String UInt64 :=
  (narrow 18446744073709551615 i.toInt).map UInt64.ofNat

/-- A number of a column as a byte. -/
def narrow8 (i : Int16) : Except String UInt8 := (narrow 255 i.toInt).map UInt8.ofNat

/-- A number of a column as a width. -/
def widthOfColumn (i : Int16) : Except String SlotWidth := do
  let bits ← narrow 4294967295 i.toInt
  (SlotWidth.ofBits bits).mapError ValidationError.message

/-- The column of an unsigned 64-bit number. -/
def columnOf (n : UInt64) : Except StoreError Int64 :=
  if n.toNat ≤ 9223372036854775807 then .ok (.ofNat n.toNat) else .error (.columnOverflow n.toNat)

/-- The column of an optional number. -/
def optionalColumnOf : Option UInt64 → Except StoreError (Option Int64)
  | none => .ok none
  | some n => (columnOf n).map some

/-- The column of a width. -/
def widthColumn (w : SlotWidth) : Int16 := .ofNat w.bits

/-- The second count of 2000-01-01 00:00:00, from which columns count time. -/
def columnEpoch : Int := 946684800

/-- A time as a column holds it: whole microseconds from the start of 2000, cut towards it.  A
column has no leap seconds, so one is counted as the second after it. -/
def columnTime (t : Instant) : Instant :=
  let micros := ((t.seconds - columnEpoch) * 1000000000 + t.nanos).tdiv 1000
  (Instant.of? (columnEpoch + micros / 1000000) (micros % 1000000 * 1000).toNat).getD t

/-- A value as a column holds it: its text, which is read again.  Reading a fraction is not exact,
so one may come back as a neighbour of what was written. -/
def columnJson (j : Json) : Json := (Json.parse? j.text).getD j

/-- Annotations as a column holds them: an object, null, or nothing. -/
def metadataOfColumn : Option Json → Except String (Option Json.Members)
  | none => .ok none
  | some .null => .ok none
  | some (.object ms) => .ok (some ms)
  | some _ => .error "metadata is not an object"

/-! ## Lists -/

/-- A row of the table of lists. -/
structure ListRow where
  id : Uuid
  issuer : String
  purpose : String
  width : Int16
  capacity : Int64
  used : Int64
  encodedList : String
  ttl : Option Int64
  metadata : Option Json
  createdAt : Instant
  updatedAt : Instant

namespace ListRow

/-- The row of a list. -/
def ofList (l : StatusList) : Except StoreError ListRow := do
  let capacity ← columnOf l.capacity
  let used ← columnOf l.used
  let ttl ← optionalColumnOf l.ttl
  return ⟨l.id.uuid, l.issuer.text, l.purpose.text, widthColumn l.width, capacity, used,
    l.encodedList, ttl, l.metadata.map .object, l.createdAt.instant, l.updatedAt.instant⟩

/-- The list of a row, or the first reason for which it stands for none. -/
def record (r : ListRow) : Except String StatusList := do
  let metadata ← metadataOfColumn r.metadata
  let issuer ← (IssuerId.ofText r.issuer).mapError ValidationError.message
  let purpose ← (Purpose.ofText r.purpose).mapError ValidationError.message
  let width ← widthOfColumn r.width
  let capacity ← narrow64 r.capacity
  let used ← narrow64 r.used
  let ttl ← r.ttl.mapM narrow64
  return ⟨⟨r.id⟩, issuer, purpose, width, capacity, used, r.encodedList, ttl, metadata,
    .ofInstant r.createdAt, .ofInstant r.updatedAt⟩

/-- The list of a row. -/
def toList (r : ListRow) : Except StoreError StatusList :=
  r.record.mapError (.corrupt .lists r.id)

end ListRow

/-! ## Entries -/

/-- A row of the table of entries. -/
structure EntryRow where
  id : Uuid
  credential : String
  list : Uuid
  index : Int64
  width : Int16
  purpose : String
  status : Int16
  createdAt : Instant
  updatedAt : Instant

namespace EntryRow

/-- The row of an entry. -/
def ofEntry (e : StatusEntry) : Except StoreError EntryRow := do
  let index ← columnOf e.index
  return ⟨e.id.uuid, e.credential.text, e.list.uuid, index, widthColumn e.width, e.purpose.text,
    .ofNat e.status.toNat, e.createdAt.instant, e.updatedAt.instant⟩

/-- The entry of a row, or the first reason for which it stands for none. -/
def record (r : EntryRow) : Except String StatusEntry := do
  let credential ← (CredentialId.ofText r.credential).mapError ValidationError.message
  let index ← narrow64 r.index
  let width ← widthOfColumn r.width
  let purpose ← (Purpose.ofText r.purpose).mapError ValidationError.message
  let status ← narrow8 r.status
  return ⟨⟨r.id⟩, credential, ⟨r.list⟩, index, width, purpose, status,
    .ofInstant r.createdAt, .ofInstant r.updatedAt⟩

/-- The entry of a row. -/
def toEntry (r : EntryRow) : Except StoreError StatusEntry :=
  r.record.mapError (.corrupt .entries r.id)

end EntryRow

end StatusRegistry

import StatusRegistry.Store.Statement

/-!
# A database server

What a server does with statements: rows are found by the columns that a statement names, what the
columns hold is what an answer gives, and the writes of a transaction are stored when it is
committed.  Nobody else writes meanwhile, and only a second row under the key of entries is turned
down.  How values are put into bytes on their way is left out.

* `Holding`: what columns hold of the values that are bound to a statement;
* `Holding.faithful`: the assumption that they hold what is bound, which is made of the server;
* `Tables`: the rows of the two tables, with the reads and writes of the statements;
* `Server.answerBy`, `Server.answer`: the answer to each statement, by what columns hold and under
  the assumption;
* `Tables.available?_eq_some`, `Tables.available?_eq_none`: which row comes first of those that a
  search by time of making admits.
-/

set_option autoImplicit false

namespace StatusRegistry

/-! ## What columns hold -/

/-- What columns hold of a time and of annotations that are bound to a statement. -/
structure Holding where
  time : Instant → Instant
  metadata : Option Json → Option Json

/-- Columns that cut times to the microsecond, and keep a JSON value as a text. -/
def Holding.columns : Holding := ⟨columnTime, Option.map columnJson⟩

/-- **The assumption on the server**: columns hold what is bound to them as it was.  Of the columns
above this is true of times in whole seconds and of annotations that come back from their text; a
fraction in annotations may come back as its neighbour. -/
def Holding.faithful : Holding := ⟨id, id⟩

/-- A row as columns hold it. -/
def ListRow.heldBy (holding : Holding) (r : ListRow) : ListRow :=
  { r with
    metadata := holding.metadata r.metadata
    createdAt := holding.time r.createdAt
    updatedAt := holding.time r.updatedAt }

def EntryRow.heldBy (holding : Holding) (r : EntryRow) : EntryRow :=
  { r with createdAt := holding.time r.createdAt, updatedAt := holding.time r.updatedAt }

/-! ## Tables -/

namespace ListRow

/-- The condition under which a row is admitted to the search for a list with room. -/
def admitted (issuer purpose : String) (width : Int16) (r : ListRow) : Bool :=
  decide (r.issuer = issuer) && decide (r.purpose = purpose) && decide (r.width = width) &&
    decide (r.used < r.capacity)

/-- The order of rows by time of making and identifier. -/
def notAfter (a b : ListRow) : Bool :=
  decide (a.createdAt < b.createdAt) ||
    (decide (a.createdAt = b.createdAt) && decide (a.id.toNat ≤ b.id.toNat))

end ListRow

/-- The rows of the two tables. -/
structure Tables where
  lists : List ListRow
  entries : List EntryRow

namespace Tables

def list? (t : Tables) (id : Uuid) : Option ListRow := t.lists.find? fun r => r.id = id

def entry? (t : Tables) (credential purpose : String) : Option EntryRow :=
  t.entries.find? fun r => r.credential = credential ∧ r.purpose = purpose

/-- The first admitted row. -/
def available? (t : Tables) (issuer purpose : String) (width : Int16) : Option ListRow :=
  ((t.lists.filter (ListRow.admitted issuer purpose width)).mergeSort ListRow.notAfter).head?

def addList (t : Tables) (row : ListRow) : Tables := { t with lists := t.lists ++ [row] }

def addEntry (t : Tables) (row : EntryRow) : Tables := { t with entries := t.entries ++ [row] }

/-- The tables with the rows of one identifier changed. -/
def changeList (t : Tables) (id : Uuid) (change : ListRow → ListRow) : Tables :=
  { t with lists := t.lists.map fun r => if r.id = id then change r else r }

def changeEntry (t : Tables) (id : Uuid) (change : EntryRow → EntryRow) : Tables :=
  { t with entries := t.entries.map fun r => if r.id = id then change r else r }

/-! What each update sets. -/

def setSettings (t : Tables) (id : Uuid) (ttl : Option Int64) (metadata : Option Json)
    (updatedAt : Instant) : Tables :=
  t.changeList id fun r => { r with ttl, metadata, updatedAt }

def setUsed (t : Tables) (id : Uuid) (used : Int64) (updatedAt : Instant) : Tables :=
  t.changeList id fun r => { r with used, updatedAt }

def setBits (t : Tables) (id : Uuid) (encodedList : String) (updatedAt : Instant) : Tables :=
  t.changeList id fun r => { r with encodedList, updatedAt }

def setStatus (t : Tables) (id : Uuid) (status : Int16) (updatedAt : Instant) : Tables :=
  t.changeEntry id fun r => { r with status, updatedAt }

end Tables

/-- What is stored, and what the transaction that is open makes of it. -/
structure Server where
  stored : Tables
  pending : Option Tables

namespace Server

/-- What a statement sees. -/
def seen (s : Server) : Tables := s.pending.getD s.stored

/-- Writes are stored at once, unless a transaction is open. -/
def write (s : Server) (t : Tables) : Server :=
  if s.pending.isSome then { s with pending := some t } else { s with stored := t }

/-- The answer to a statement, and the server after it. -/
def answerBy (holding : Holding) (s : Server) :
    (statement : Statement) → Except DatabaseFault statement.Answer × Server
  | .begin => (.ok (), { s with pending := some s.seen })
  | .commit => (.ok (), ⟨s.seen, none⟩)
  | .selectList id _ => (.ok (s.seen.list? id), s)
  | .selectAvailable issuer purpose width => (.ok (s.seen.available? issuer purpose width), s)
  | .selectEntry credential purpose _ => (.ok (s.seen.entry? credential purpose), s)
  | .insertList row => (.ok (), s.write (s.seen.addList (row.heldBy holding)))
  | .insertEntry row =>
    if (s.seen.entry? row.credential row.purpose).isSome then
      (.error (.refused "23505" "duplicate key value violates unique constraint"), s)
    else (.ok (), s.write (s.seen.addEntry (row.heldBy holding)))
  | .updateSettings id ttl metadata updatedAt =>
    let t := s.seen.setSettings id ttl (holding.metadata metadata) (holding.time updatedAt)
    (.ok (t.list? id), s.write t)
  | .updateUsed id used updatedAt =>
    (.ok (), s.write (s.seen.setUsed id used (holding.time updatedAt)))
  | .updateBits id encodedList updatedAt =>
    (.ok (), s.write (s.seen.setBits id encodedList (holding.time updatedAt)))
  | .updateStatus id status updatedAt =>
    (.ok (), s.write (s.seen.setStatus id status (holding.time updatedAt)))

/-- The answer of a server whose columns hold what is bound to them. -/
def answer (s : Server) :
    (statement : Statement) → Except DatabaseFault statement.Answer × Server :=
  s.answerBy .faithful

end Server

/-! ## The first admitted row -/

namespace ListRow

theorem notAfter_iff {a b : ListRow} :
    a.notAfter b = true ↔ a.createdAt.rank < b.createdAt.rank ∨
      a.createdAt.rank = b.createdAt.rank ∧ a.id.toNat ≤ b.id.toNat := by
  have hlt : a.createdAt < b.createdAt ↔ a.createdAt.rank < b.createdAt.rank := Iff.rfl
  simp only [notAfter, Bool.or_eq_true, Bool.and_eq_true, decide_eq_true_eq, hlt, Instant.rank_inj]

theorem notAfter_total (a b : ListRow) : (a.notAfter b || b.notAfter a) = true := by
  rw [Bool.or_eq_true, notAfter_iff, notAfter_iff]
  omega

theorem notAfter_refl (a : ListRow) : a.notAfter a = true := by
  have := notAfter_total a a
  rwa [Bool.or_self] at this

theorem notAfter_trans (a b c : ListRow) (hab : a.notAfter b = true) (hbc : b.notAfter c = true) :
    a.notAfter c = true := by
  rw [notAfter_iff] at *
  omega

end ListRow

namespace Tables

/-- No row of an identifier, no change. -/
theorem changeList_eq_self {t : Tables} {id : Uuid} (h : t.list? id = none)
    (change : ListRow → ListRow) : t.changeList id change = t := by
  have hsame : ∀ r ∈ t.lists, (if r.id = id then change r else r) = r := by
    intro r hr
    have := List.find?_eq_none.mp h r hr
    exact if_neg (by simpa using this)
  unfold changeList
  rw [List.map_congr_left hsame, List.map_id']

variable {t : Tables} {issuer purpose : String} {width : Int16}

theorem mem_sorted_iff {row : ListRow} :
    row ∈ (t.lists.filter (ListRow.admitted issuer purpose width)).mergeSort ListRow.notAfter ↔
      row ∈ t.lists ∧ row.admitted issuer purpose width = true := by
  rw [List.mem_mergeSort, List.mem_filter]

/-- The row that is found is admitted, and no admitted row comes before it. -/
theorem available?_eq_some {row : ListRow} (h : t.available? issuer purpose width = some row) :
    (row ∈ t.lists ∧ row.admitted issuer purpose width = true) ∧
      ∀ other ∈ t.lists, other.admitted issuer purpose width = true →
        row.notAfter other = true := by
  obtain ⟨rest, hsorted⟩ := List.head?_eq_some_iff.mp h
  have hpairwise := List.pairwise_mergeSort ListRow.notAfter_trans ListRow.notAfter_total
    (t.lists.filter (ListRow.admitted issuer purpose width))
  rw [hsorted, List.pairwise_cons] at hpairwise
  refine ⟨mem_sorted_iff.mp (by rw [hsorted]; exact List.mem_cons_self), ?_⟩
  intro other hother hadmitted
  have hmem := mem_sorted_iff.mpr ⟨hother, hadmitted⟩
  rw [hsorted] at hmem
  rcases List.mem_cons.mp hmem with rfl | hmem
  · exact ListRow.notAfter_refl other
  · exact hpairwise.1 other hmem

theorem available?_eq_none (h : t.available? issuer purpose width = none) :
    ∀ row ∈ t.lists, row.admitted issuer purpose width = false := by
  intro row hrow
  rw [← Bool.not_eq_true]
  intro hadmitted
  have hmem := mem_sorted_iff.mpr ⟨hrow, hadmitted⟩
  rw [List.head?_eq_none_iff.mp h] at hmem
  cases hmem

end Tables

end StatusRegistry

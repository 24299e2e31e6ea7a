import StatusRegistry.Store.Row

/-!
# Statements

What is said to a database: the statements, each with the type of its answer, and sessions, which
are statements one after another, each of which may depend on the answers before it.

* A session is a value, so what it says can be followed for every sequence of answers.
* `Session.bind` runs one session after another.
-/

set_option autoImplicit false

namespace StatusRegistry

/-- A statement.  Reading with `lock` keeps the row from other transactions until the end of the
own one. -/
inductive Statement where
  | begin
  | commit
  | selectList (id : Uuid) (lock : Bool)
  /-- The first list of a group with room, by time of making and identifier. -/
  | selectAvailable (issuer purpose : String) (width : Int16)
  | selectEntry (credential purpose : String) (lock : Bool)
  | insertList (row : ListRow)
  | insertEntry (row : EntryRow)
  /-- Stores the settings of a list and reads its row. -/
  | updateSettings (id : Uuid) (ttl : Option Int64) (metadata : Option Json) (updatedAt : Instant)
  | updateUsed (id : Uuid) (used : Int64) (updatedAt : Instant)
  | updateBits (id : Uuid) (encodedList : String) (updatedAt : Instant)
  | updateStatus (id : Uuid) (status : Int16) (updatedAt : Instant)

namespace Statement

/-- The answer to a statement. -/
abbrev Answer : Statement → Type
  | selectList _ _ => Option ListRow
  | selectAvailable _ _ _ => Option ListRow
  | selectEntry _ _ _ => Option EntryRow
  | updateSettings _ _ _ _ => Option ListRow
  | _ => Unit

/-- The verb of a statement, with its table if it has one and whether it locks. -/
def text : Statement → String
  | begin => "BEGIN"
  | commit => "COMMIT"
  | selectList _ false => "SELECT status_lists"
  | selectList _ true => "SELECT status_lists FOR UPDATE"
  | selectAvailable _ _ _ => "SELECT status_lists"
  | selectEntry _ _ false => "SELECT status_entries"
  | selectEntry _ _ true => "SELECT status_entries FOR UPDATE"
  | insertList _ => "INSERT status_lists"
  | insertEntry _ => "INSERT status_entries"
  | updateSettings _ _ _ _ => "UPDATE status_lists"
  | updateUsed _ _ _ => "UPDATE status_lists"
  | updateBits _ _ _ => "UPDATE status_lists"
  | updateStatus _ _ _ => "UPDATE status_entries"

/-- A value bound to a place of a statement. -/
inductive Value where
  | null
  | integer (i : Int)
  | text (s : String)
  | uuid (u : Uuid)
  | time (t : Instant)
  | json (j : Json)

/-- A time, as its column holds it. -/
def Value.moment (t : Instant) : Value := time (columnTime t)

/-- A JSON value, as its column holds it. -/
def Value.document (j : Json) : Value := json (columnJson j)

/-- The values bound to the places of a statement, in their order; the two statements that
delimit a transaction have no places. -/
def values : Statement → Option (List Value)
  | begin => none
  | commit => none
  | selectList id _ => some [.uuid id]
  | selectAvailable issuer purpose width =>
    some [.text issuer, .text purpose, .integer width.toInt]
  | selectEntry credential purpose _ => some [.text credential, .text purpose]
  | insertList r =>
    some [.uuid r.id, .text r.issuer, .text r.purpose, .integer r.width.toInt,
      .integer r.capacity.toInt, .integer r.used.toInt, .text r.encodedList,
      (r.ttl.map fun n => Value.integer n.toInt).getD .null, (r.metadata.map .document).getD .null,
      .moment r.createdAt, .moment r.updatedAt]
  | insertEntry r =>
    some [.uuid r.id, .text r.credential, .uuid r.list, .integer r.index.toInt,
      .integer r.width.toInt, .text r.purpose, .integer r.status.toInt, .moment r.createdAt,
      .moment r.updatedAt]
  | updateSettings id ttl metadata updatedAt =>
    some [(ttl.map fun n => Value.integer n.toInt).getD .null, (metadata.map .document).getD .null,
      .moment updatedAt, .uuid id]
  | updateUsed id used updatedAt => some [.integer used.toInt, .moment updatedAt, .uuid id]
  | updateBits id encodedList updatedAt => some [.text encodedList, .moment updatedAt, .uuid id]
  | updateStatus id status updatedAt => some [.integer status.toInt, .moment updatedAt, .uuid id]

end Statement

/-! ## Sessions -/

/-- Statements one after another, and a result. -/
inductive Session (α : Type) where
  | done (result : α)
  | send (statement : Statement) (next : Except DatabaseFault statement.Answer → Session α)

namespace Session

variable {α β : Type}

/-- One session after another. -/
def bind (s : Session α) (f : α → Session β) : Session β :=
  match s with
  | done a => f a
  | send statement next => send statement fun answer => (next answer).bind f

instance : Monad Session where
  pure := done
  bind := bind

/-- Sends a statement; a fault of the database ends the session with that error. -/
def query (statement : Statement) : ExceptT StoreError Session statement.Answer :=
  ExceptT.mk (send statement fun answer => done (answer.mapError .database))

/-- Runs a session against a database that is a state. -/
def run {σ : Type} (answer : σ → (s : Statement) → Except DatabaseFault s.Answer × σ) (db : σ) :
    Session α → α × σ
  | done a => (a, db)
  | send statement next =>
    let (a, db) := answer db statement
    (next a).run answer db

/-- Goes on with a value, or ends the session with an error. -/
def lift (result : Except StoreError α) : ExceptT StoreError Session α := ExceptT.mk (done result)

end Session

end StatusRegistry

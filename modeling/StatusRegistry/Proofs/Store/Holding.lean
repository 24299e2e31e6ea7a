import StatusRegistry.Proofs.Store.Agreement

/-!
# What columns hold

What becomes of the values that are bound to a statement.  The values of an insertion are the
columns of its row, one after another.  Columns that cut times and keep annotations as texts hold
all that the operations bind at whole seconds, unless annotations do not come back from their text,
so a database with such columns does what one with faithful columns does.

* `ListRow.ofValues?_values`, `EntryRow.ofValues?_values`: the row of an insertion stands in its
  values, as the columns hold it;
* `Statement.KeptBy`, `Server.answerBy_eq_answer`: what columns hold makes no difference to
  statements whose values they keep;
* `Session.Sends`, `Session.run_eq_run`: what a session may send, and that only that matters;
* `session_sends`: the columns keep what an operation binds;
* `agrees_in_columns`: both stores agree where the columns are such, too.
-/

set_option autoImplicit false

namespace StatusRegistry

/-! ## The values of an insertion -/

namespace Statement

/-- An optional number of a column. -/
def Value.number? : Value → Option (Option Int64)
  | null => some none
  | integer i => some (some (.ofInt i))
  | _ => none

/-- Optional annotations of a column. -/
def Value.metadata? : Value → Option (Option Json)
  | null => some none
  | json j => some (some j)
  | _ => none

end Statement

/-- The row of a list that has some values in its columns, from the first column on. -/
def ListRow.ofValues? : List Statement.Value → Option ListRow
  | [.uuid id, .text issuer, .text purpose, .integer width, .integer capacity, .integer used,
      .text encodedList, ttl, metadata, .time createdAt, .time updatedAt] => do
    let ttl ← ttl.number?
    let metadata ← metadata.metadata?
    return {
      id, issuer, purpose, encodedList, ttl, metadata, createdAt, updatedAt
      width := .ofInt width
      capacity := .ofInt capacity
      used := .ofInt used }
  | _ => none

/-- The row of an entry that has some values in its columns, from the first column on. -/
def EntryRow.ofValues? : List Statement.Value → Option EntryRow
  | [.uuid id, .text credential, .uuid list, .integer index, .integer width, .text purpose,
      .integer status, .time createdAt, .time updatedAt] =>
    some {
      id, credential, list, purpose, createdAt, updatedAt
      index := .ofInt index
      width := .ofInt width
      status := .ofInt status }
  | _ => none

/-- **The values of an insertion are the columns of its row**, one after another. -/
theorem ListRow.ofValues?_values (r : ListRow) :
    (Statement.insertList r).values.bind ListRow.ofValues? = some (r.heldBy .columns) := by
  obtain ⟨id, issuer, purpose, width, capacity, used, encodedList, ttl, metadata, createdAt,
    updatedAt⟩ := r
  cases ttl <;> cases metadata <;>
    simp [Statement.values, ofValues?, heldBy, Holding.columns, Statement.Value.number?,
      Statement.Value.metadata?, Statement.Value.moment, Statement.Value.document]

theorem EntryRow.ofValues?_values (r : EntryRow) :
    (Statement.insertEntry r).values.bind EntryRow.ofValues? = some (r.heldBy .columns) := by
  simp [Statement.values, ofValues?, heldBy, Holding.columns, Statement.Value.moment]

/-! ## Statements -/

theorem ListRow.heldBy_eq_self {holding : Holding} {r : ListRow}
    (hmetadata : holding.metadata r.metadata = r.metadata)
    (hcreated : holding.time r.createdAt = r.createdAt)
    (hupdated : holding.time r.updatedAt = r.updatedAt) : r.heldBy holding = r := by
  simp only [heldBy, hmetadata, hcreated, hupdated]

theorem EntryRow.heldBy_eq_self {holding : Holding} {r : EntryRow}
    (hcreated : holding.time r.createdAt = r.createdAt)
    (hupdated : holding.time r.updatedAt = r.updatedAt) : r.heldBy holding = r := by
  simp only [heldBy, hcreated, hupdated]

/-- Columns hold what a statement binds as it was. -/
def Statement.KeptBy (holding : Holding) : Statement → Prop
  | insertList r => r.heldBy holding = r
  | insertEntry r => r.heldBy holding = r
  | updateSettings _ _ metadata updatedAt =>
    holding.metadata metadata = metadata ∧ holding.time updatedAt = updatedAt
  | updateUsed _ _ updatedAt => holding.time updatedAt = updatedAt
  | updateBits _ _ updatedAt => holding.time updatedAt = updatedAt
  | updateStatus _ _ updatedAt => holding.time updatedAt = updatedAt
  | _ => True

/-- Where columns keep what a statement binds, it is answered as if they kept everything. -/
theorem Server.answerBy_eq_answer {holding : Holding} {statement : Statement}
    (h : statement.KeptBy holding) (s : Server) :
    s.answerBy holding statement = s.answer statement := by
  cases statement with
  | insertList r =>
    have hkept : r.heldBy holding = r := h
    simp only [answer, answerBy, hkept]
    rfl
  | insertEntry r =>
    have hkept : r.heldBy holding = r := h
    simp only [answer, answerBy, hkept]
    rfl
  | updateSettings id ttl metadata updatedAt =>
    obtain ⟨hmetadata, htime⟩ := h
    simp only [answer, answerBy, hmetadata, htime]
    rfl
  | updateUsed id used updatedAt =>
    have htime : holding.time updatedAt = updatedAt := h
    simp only [answer, answerBy, htime]
    rfl
  | updateBits id encodedList updatedAt =>
    have htime : holding.time updatedAt = updatedAt := h
    simp only [answer, answerBy, htime]
    rfl
  | updateStatus id status updatedAt =>
    have htime : holding.time updatedAt = updatedAt := h
    simp only [answer, answerBy, htime]
    rfl
  | _ => rfl

/-! ## Sessions -/

namespace Session

variable {α β : Type} {P : Statement → Prop}

/-- Every statement that a session sends has a property, whatever the answers. -/
def Sends (P : Statement → Prop) : Session α → Prop
  | done _ => True
  | send statement next => P statement ∧ ∀ answer, (next answer).Sends P

/-- What is answered to other statements makes no difference to a session. -/
theorem run_eq_run {σ : Type}
    {answer answer' : σ → (s : Statement) → Except DatabaseFault s.Answer × σ}
    (hsame : ∀ statement, P statement → ∀ db, answer db statement = answer' db statement)
    {s : Session α} (h : s.Sends P) (db : σ) : s.run answer db = s.run answer' db := by
  induction s generalizing db with
  | done a => rfl
  | send statement next ih =>
    obtain ⟨hstatement, hnext⟩ := h
    simp only [run, hsame statement hstatement db]
    exact ih _ (hnext _) _

theorem sends_bind {s : Session α} {f : α → Session β} (hs : s.Sends P)
    (hf : ∀ a, (f a).Sends P) : (s.bind f).Sends P := by
  induction s with
  | done a => exact hf a
  | send statement next ih => exact ⟨hs.1, fun answer => ih answer (hs.2 answer)⟩

theorem sends_work_bind {x : ExceptT StoreError Session α}
    {f : α → ExceptT StoreError Session β} (hx : x.run.Sends P) (hf : ∀ a, (f a).run.Sends P) :
    (x >>= f).run.Sends P := by
  refine sends_bind hx fun r => ?_
  cases r with
  | error e => trivial
  | ok a => exact hf a

theorem sends_lift_bind {x : Except StoreError α} {f : α → ExceptT StoreError Session β}
    (hf : ∀ a, x = .ok a → (f a).run.Sends P) : (lift x >>= f).run.Sends P := by
  cases x with
  | error e => trivial
  | ok a => exact hf a rfl

theorem sends_query {statement : Statement} (h : P statement) :
    (query statement).run.Sends P :=
  ⟨h, fun _ => trivial⟩

end Session

namespace Database

open Session

/-- Annotations of a request come back from their text. -/
def MetadataKept : StoreRequest → Prop
  | .createList r => ∀ ms, r.metadata = some ms → columnJson (.object ms) = .object ms
  | .updateList l => ∀ ms, l.metadata = some ms → columnJson (.object ms) = .object ms
  | _ => True

theorem metadata_kept {metadata : Option Json.Members}
    (h : ∀ ms, metadata = some ms → columnJson (.object ms) = .object ms) :
    Holding.columns.metadata (metadata.map .object) = metadata.map .object := by
  cases metadata with
  | none => rfl
  | some ms => exact congrArg some (h ms rfl)

variable {stamp : Stamp}

theorem time_kept {t : Timestamp} (h : t.Whole) :
    Holding.columns.time t.instant = t.instant :=
  Timestamp.columnTime_instant h

theorem createList_sends (hnow : stamp.now.Whole) (r : ListRequest)
    (h : MetadataKept (.createList r)) :
    (createList r stamp).run.Sends (Statement.KeptBy .columns) := by
  refine sends_lift_bind fun l hl => sends_lift_bind fun row hrow => ?_
  refine sends_work_bind (sends_query ?_) fun _ => trivial
  obtain ⟨p, -, rfl⟩ := StatusList.create_eq_ok (mapError_eq_ok_iff.mp hl)
  have hwrites := ListRow.ofList_eq_ok_iff.mp hrow
  apply ListRow.heldBy_eq_self
  · rw [hwrites.metadata_eq]
    exact metadata_kept h
  · rw [hwrites.createdAt_eq]
    exact time_kept hnow
  · rw [hwrites.updatedAt_eq]
    exact time_kept hnow

theorem updateList_sends {l : StatusList} (hl : l.updatedAt.Whole)
    (h : MetadataKept (.updateList l)) :
    (updateList l).run.Sends (Statement.KeptBy .columns) := by
  refine sends_lift_bind fun ttl _ => sends_work_bind (sends_query ?_) fun found => ?_
  · exact ⟨metadata_kept h, time_kept hl⟩
  · cases found <;> trivial

theorem insertEntry_sends {e : StatusEntry} (hcreated : e.createdAt.Whole)
    (hupdated : e.updatedAt.Whole) : (insertEntry e).run.Sends (Statement.KeptBy .columns) := by
  refine sends_lift_bind fun row hrow => ⟨?_, fun _ => trivial⟩
  have hwrites := EntryRow.ofEntry_eq_ok_iff.mp hrow
  apply EntryRow.heldBy_eq_self
  · rw [hwrites.createdAt_eq]
    exact time_kept hcreated
  · rw [hwrites.updatedAt_eq]
    exact time_kept hupdated

theorem selectList_sends (list : ListId) (lock : Bool) :
    (selectList list lock).run.Sends (Statement.KeptBy .columns) :=
  sends_work_bind (sends_query trivial) fun _ => trivial

theorem findEntry_sends (credential : CredentialId) (purpose : Purpose) (lock : Bool) :
    (findEntry credential purpose lock).run.Sends (Statement.KeptBy .columns) :=
  sends_work_bind (sends_query trivial) fun _ => trivial

theorem createEntry_sends (hnow : stamp.now.Whole) (r : EntryRequest) :
    (createEntry r stamp).run.Sends (Statement.KeptBy .columns) := by
  refine sends_work_bind (sends_query trivial) fun _ =>
    sends_work_bind (selectList_sends r.list true) fun found => ?_
  cases found with
  | none => trivial
  | some l =>
    refine sends_lift_bind fun both hallocate => sends_lift_bind fun used _ => ?_
    obtain ⟨-, he, hl⟩ := Memory.allocate_eq_ok_iff.mp hallocate
    refine sends_work_bind (sends_query ?_) fun _ => sends_work_bind ?_ fun _ =>
      sends_work_bind (sends_query trivial) fun _ => trivial
    · rw [hl]
      exact time_kept hnow
    · rw [he]
      exact insertEntry_sends hnow hnow

theorem changeStatus_sends {now : Timestamp} (hnow : now.Whole) (u : StatusUpdate) :
    (changeStatus u now).run.Sends (Statement.KeptBy .columns) := by
  refine sends_work_bind (sends_query trivial) fun _ =>
    sends_work_bind (findEntry_sends u.credential u.purpose true) fun found => ?_
  cases found with
  | none => trivial
  | some e =>
    refine sends_work_bind (selectList_sends e.list true) fun found => ?_
    cases found with
    | none => trivial
    | some l =>
      refine sends_lift_bind fun both happly => ?_
      obtain ⟨-, code, hset, he⟩ := StatusEntry.apply_eq_ok (mapError_eq_ok_iff.mp happly)
      obtain ⟨-, data, data', -, -, hl⟩ := StatusList.setStatus_eq_ok hset
      refine sends_work_bind (sends_query ?_) fun _ => sends_work_bind (sends_query ?_) fun _ =>
        sends_work_bind (sends_query trivial) fun _ => trivial
      · rw [hl]
        exact time_kept hnow
      · rw [he, hl]
        exact time_kept hnow

/-- **The columns keep what an operation at a whole second binds**, if they keep its annotations. -/
theorem session_sends (hnow : stamp.now.Whole) {q : StoreRequest} (hq : q.FitsColumns)
    (hmetadata : MetadataKept q) : (session stamp q).Sends (Statement.KeptBy .columns) := by
  cases q with
  | createList r => exact createList_sends hnow r hmetadata
  | findList list => exact selectList_sends list false
  | findAvailable issuer purpose width =>
    exact sends_work_bind (sends_query trivial) fun _ => trivial
  | updateList l => exact updateList_sends hq.2 hmetadata
  | createEntry r => exact createEntry_sends hnow r
  | findEntry credential purpose => exact findEntry_sends credential purpose false
  | updateStatus u =>
    refine sends_bind (changeStatus_sends hnow u) fun r => ?_
    cases r <;> trivial

/-! ## Both stores -/

/-- An operation carried out by a server whose columns hold what they hold. -/
def performBy (holding : Holding) (t : Tables) (stamp : Stamp) (q : StoreRequest) :
    q.Answer × Tables :=
  let (a, s) := (session stamp q).run (Server.answerBy holding) ⟨t, none⟩
  (a, s.stored)

/-- **Both stores agree where columns cut times and keep annotations as texts**, at whole seconds
and with annotations that come back from their text: the database answers as the store does and
holds what the store holds. -/
theorem agrees_in_columns {m : Memory} (hm : m.Reachable) (hfits : m.FitsColumns) {t : Tables}
    (h : t.Stores m) (hnow : stamp.now.Whole) {q : StoreRequest}
    (hfresh : m.Fresh stamp.fresh q) (hq : q.FitsColumns) (hmetadata : MetadataKept q) :
    (performBy .columns t stamp q).1 = (m.answer stamp q).1 ∧
      (performBy .columns t stamp q).2.Stores (m.answer stamp q).2 := by
  have hsame : performBy .columns t stamp q = perform t stamp q := by
    unfold performBy perform
    rw [run_eq_run (fun _ hkept db => Server.answerBy_eq_answer hkept db)
      (session_sends hnow hq hmetadata)]
  have hagrees := session_agrees h hm.consistent hfits hfresh hq
  rw [hsame]
  exact ⟨hagrees.answer_eq, hagrees.stores⟩

end Database

end StatusRegistry

import StatusRegistry.Proofs.Store.Transaction
import StatusRegistry.Proofs.Wording

/-!
# What a refused change says is missing

Whatever the server answers to a change of a status, its outcome says that something is missing iff
a record was looked for and not found, or a text that came with the answers holds the words.  So a
fault of the database whose own message has them, or a row whose purpose has them, is taken for a
missing record.

* `Exchange.FindsNothing`: a record was looked for and there was none;
* `Exchange.Misleads`: a fault or a row whose text says "not found";
* `updateStatus_isNotFound_iff`: the outcome tells one or the other;
* `fault_told_as_missing`: and it can be the other.
-/

set_option autoImplicit false

namespace StatusRegistry

open UpdateResult

/-- A record was looked for, and there was none. -/
inductive Exchange.FindsNothing : Exchange → Prop where
  | entry {credential purpose : String} {lock : Bool} :
      FindsNothing ⟨.selectEntry credential purpose lock, .ok none⟩
  | list {id : Uuid} {lock : Bool} : FindsNothing ⟨.selectList id lock, .ok none⟩

/-- Something else went wrong, with a text that says "not found": the server's message to a fault,
or the purpose of a row, which is then the reason for which the row stands for no record. -/
inductive Exchange.Misleads : Exchange → Prop where
  | fault {statement : Statement} {code message : String} (told : Tells message) :
      Misleads ⟨statement, .error (.refused code message)⟩
  | entry {credential purpose : String} {lock : Bool} {row : EntryRow}
      (unreadable : row.toEntry =
        .error (.corrupt .entries row.id ("Invalid status purpose: " ++ row.purpose)))
      (told : Tells row.purpose) :
      Misleads ⟨.selectEntry credential purpose lock, .ok (some row)⟩
  | list {id : Uuid} {lock : Bool} {row : ListRow}
      (unreadable : row.toList =
        .error (.corrupt .lists row.id ("Invalid status purpose: " ++ row.purpose)))
      (told : Tells row.purpose) :
      Misleads ⟨.selectList id lock, .ok (some row)⟩

namespace Exchange

/-- The exchange is one that an outcome may tell as a missing record. -/
def Alarms (x : Exchange) : Prop := x.FindsNothing ∨ x.Misleads

theorem alarms_fault_iff {statement : Statement} {fault : DatabaseFault} :
    Alarms ⟨statement, .error fault⟩ ↔ Tells (StoreError.database fault).message := by
  rw [tells_database_iff]
  constructor
  · rintro (h | h)
    · cases h
    · cases h with
      | fault told => exact ⟨_, _, rfl, told⟩
  · rintro ⟨code, message, rfl, told⟩
    exact .inr (.fault told)

theorem alarms_entry_iff {credential purpose : String} {lock : Bool} {row : EntryRow} :
    Alarms ⟨.selectEntry credential purpose lock, .ok (some row)⟩ ↔
      ∃ e, row.toEntry = .error e ∧ Tells e.message := by
  constructor
  · rintro (h | h)
    · cases h
    · cases h with
      | entry unreadable told =>
        exact ⟨_, unreadable, (tells_toEntry_iff unreadable).mpr ⟨rfl, told⟩⟩
  · rintro ⟨e, he, told⟩
    obtain ⟨rfl, hpurpose⟩ := (tells_toEntry_iff he).mp told
    exact .inr (.entry he hpurpose)

theorem alarms_list_iff {id : Uuid} {lock : Bool} {row : ListRow} :
    Alarms ⟨.selectList id lock, .ok (some row)⟩ ↔
      ∃ e, row.toList = .error e ∧ Tells e.message := by
  constructor
  · rintro (h | h)
    · cases h
    · cases h with
      | list unreadable told => exact ⟨_, unreadable, (tells_toList_iff unreadable).mpr ⟨rfl, told⟩⟩
  · rintro ⟨e, he, told⟩
    obtain ⟨rfl, hpurpose⟩ := (tells_toList_iff he).mp told
    exact .inr (.list he hpurpose)

/-- Of the statements that are answered without a fault only those that look for a record alarm. -/
theorem reads_of_alarms {statement : Statement} {a : statement.Answer}
    (h : Alarms ⟨statement, .ok a⟩) :
    (∃ credential purpose lock, statement = .selectEntry credential purpose lock) ∨
      ∃ id lock, statement = .selectList id lock := by
  rcases h with h | h
  · cases h with
    | entry => exact .inl ⟨_, _, _, rfl⟩
    | list => exact .inr ⟨_, _, rfl⟩
  · cases h with
    | entry unreadable told => exact .inl ⟨_, _, _, rfl⟩
    | list unreadable told => exact .inr ⟨_, _, rfl⟩

end Exchange

namespace Database

open Session Exchange

theorem listOfRow_eq_error_iff {row : Option ListRow} {e : StoreError} :
    listOfRow row = .error e ↔ ∃ found, row = some found ∧ found.toList = .error e := by
  cases row with
  | none => simp [listOfRow]
  | some found => cases h : found.toList <;> simp [listOfRow, Except.map, h]

theorem entryOfRow_eq_error_iff {row : Option EntryRow} {e : StoreError} :
    entryOfRow row = .error e ↔ ∃ found, row = some found ∧ found.toEntry = .error e := by
  cases row with
  | none => simp [entryOfRow]
  | some found => cases h : found.toEntry <;> simp [entryOfRow, Except.map, h]

theorem listOfRow_eq_none_iff {row : Option ListRow} : listOfRow row = .ok none ↔ row = none := by
  cases row with
  | none => simp [listOfRow]
  | some found => cases h : found.toList <;> simp [listOfRow, Except.map, h]

theorem entryOfRow_eq_none_iff {row : Option EntryRow} :
    entryOfRow row = .ok none ↔ row = none := by
  cases row with
  | none => simp [entryOfRow]
  | some found => cases h : found.toEntry <;> simp [entryOfRow, Except.map, h]

/-- The outcome of a session tells that something is missing. -/
def TellsMissing : Except StoreError UpdateResult → Prop
  | .ok x => x.isNotFound = true
  | .error e => Tells e.message

/-- What a log tells is what its last exchange tells, if those in front do not alarm. -/
theorem exists_alarms_cons_iff {x : Exchange} {log : List Exchange} (hx : ¬ x.Alarms) :
    (∃ y ∈ x :: log, y.Alarms) ↔ ∃ y ∈ log, y.Alarms := by
  simp [hx]

theorem exists_alarms_singleton_iff {x : Exchange} : (∃ y ∈ [x], y.Alarms) ↔ x.Alarms := by
  simp

/-- A fault ends the session, which tells what the fault tells. -/
theorem fault_tells_iff {statement : Statement} {fault : DatabaseFault} :
    TellsMissing (.error (.database fault)) ↔
      ∃ x ∈ [(⟨statement, .error fault⟩ : Exchange)], x.Alarms :=
  (exists_alarms_singleton_iff.trans alarms_fault_iff).symm

section Changes

variable {u : StatusUpdate} {now : Timestamp} {log : List Exchange}
  {r : Except StoreError UpdateResult}

/-- The two writes and the commit of a change tell what their first fault tells. -/
theorem writes_tell_iff {bits status : Statement} {a : UpdateResult} (ha : a.success = true)
    (hbits : ∀ b, ¬ Alarms ⟨bits, .ok b⟩) (hstatus : ∀ b, ¬ Alarms ⟨status, .ok b⟩)
    (h : (query bits >>= fun _ => query status >>= fun _ => query .commit >>= fun _ =>
      (pure a : Work UpdateResult)).run.Says log r) :
    TellsMissing r ↔ ∃ x ∈ log, x.Alarms := by
  rcases says_query_bind_iff.mp h with ⟨fault, rfl, rfl⟩ | ⟨b, log, rfl, hsecond⟩
  · exact fault_tells_iff
  rw [exists_alarms_cons_iff (hbits b)]
  rcases says_query_bind_iff.mp hsecond with ⟨fault, rfl, rfl⟩ | ⟨b, log, rfl, hcommit⟩
  · exact fault_tells_iff
  rw [exists_alarms_cons_iff (hstatus b)]
  rcases says_query_bind_iff.mp hcommit with ⟨fault, rfl, rfl⟩ | ⟨b, log, rfl, hend⟩
  · exact fault_tells_iff
  have hquiet : ¬ Alarms ⟨.commit, .ok b⟩ := fun h => by simpa using reads_of_alarms h
  rw [exists_alarms_cons_iff hquiet]
  obtain ⟨rfl, rfl⟩ := says_pure_iff.mp hend
  simp [TellsMissing, isNotFound, ha]

/-- **What the session of a change tells is what its log tells**: it ends at the first exchange that
alarms, and what it then comes to has the words. -/
theorem changeStatus_tells_iff (h : (changeStatus u now).run.Says log r) :
    TellsMissing r ↔ ∃ x ∈ log, x.Alarms := by
  unfold changeStatus at h
  rcases says_query_bind_iff.mp h with ⟨fault, rfl, rfl⟩ | ⟨b, log, rfl, hselect⟩
  · exact fault_tells_iff
  have hbegin : ¬ Alarms ⟨.begin, .ok b⟩ := fun h => by simpa using reads_of_alarms h
  rw [exists_alarms_cons_iff hbegin]
  rcases says_findEntry_bind_iff.mp hselect with ⟨fault, rfl, rfl⟩ | ⟨row, e, rfl, hrow, rfl⟩ |
    ⟨row, found, log, rfl, hrow, hfound⟩
  · exact fault_tells_iff
  · obtain ⟨entry, rfl, hentry⟩ := entryOfRow_eq_error_iff.mp hrow
    rw [exists_alarms_singleton_iff, alarms_entry_iff, hentry]
    simp [TellsMissing]
  cases found with
  | none =>
    obtain rfl := entryOfRow_eq_none_iff.mp hrow
    obtain ⟨rfl, rfl⟩ := says_pure_iff.mp hfound
    rw [exists_alarms_singleton_iff]
    exact iff_of_true (isNotFound_entryNotFound _ _) (.inl .entry)
  | some e =>
    obtain ⟨entry, rfl, hentry⟩ := entryOfRow_eq_some_iff.mp hrow
    rw [exists_alarms_cons_iff (by rw [alarms_entry_iff, hentry]; simp)]
    rcases says_selectList_bind_iff.mp hfound with ⟨fault, rfl, rfl⟩ | ⟨row, e, rfl, hrow, rfl⟩ |
      ⟨row, found, log, rfl, hrow, hlisted⟩
    · exact fault_tells_iff
    · obtain ⟨list, rfl, hlist⟩ := listOfRow_eq_error_iff.mp hrow
      rw [exists_alarms_singleton_iff, alarms_list_iff, hlist]
      simp [TellsMissing]
    cases found with
    | none =>
      obtain rfl := listOfRow_eq_none_iff.mp hrow
      obtain ⟨rfl, rfl⟩ := says_pure_iff.mp hlisted
      rw [exists_alarms_singleton_iff]
      exact iff_of_true (isNotFound_listNotFound _) (.inl .list)
    | some l =>
      obtain ⟨list, rfl, hlist⟩ := listOfRow_eq_some_iff.mp hrow
      rw [exists_alarms_cons_iff (by rw [alarms_list_iff, hlist]; simp)]
      rcases says_lift_bind_iff.mp hlisted with ⟨e', hrefused, rfl, rfl⟩ |
        ⟨⟨e', l'⟩, happly, hwrites⟩
      · obtain ⟨cause, hcause, rfl⟩ := mapError_eq_error_iff.mp hrefused
        exact iff_of_false (silent_of_apply hcause).not_tells (by simp)
      · exact writes_tell_iff rfl (fun _ h => by simpa using reads_of_alarms h)
          (fun _ h => by simpa using reads_of_alarms h) hwrites

/-- **A change is told as one of a missing record iff a record was looked for and not found, or an
answer misleads**, whatever the server answers.  So where no answer holds the words, the outcome
tells just what is missing. -/
theorem updateStatus_isNotFound_iff {result : UpdateResult}
    (h : (updateStatus u now).Says log result) :
    result.isNotFound = true ↔ (∃ x ∈ log, x.FindsNothing) ∨ ∃ x ∈ log, x.Misleads := by
  obtain ⟨r, hr, hend⟩ := says_updateStatus h
  have htells : TellsMissing r ↔ result.isNotFound = true := by
    rcases hend with rfl | ⟨e, rfl, rfl⟩
    · rfl
    · exact isNotFound_failed_iff.symm
  rw [← htells, changeStatus_tells_iff hr]
  simp only [Alarms, and_or_left, exists_or]

end Changes

/-- Where the entry has no row, the outcome tells so. -/
theorem sample_isNotFound_iff : ∃ log result,
    (updateStatus ⟨Memory.Sample.credential, 1, .revocation, none⟩ ⟨.epoch⟩).Says log result ∧
      result.isNotFound = true := by
  have hsays : (updateStatus ⟨Memory.Sample.credential, 1, .revocation, none⟩ ⟨.epoch⟩).Says
      [⟨.begin, .ok ()⟩,
        ⟨.selectEntry Memory.Sample.credential.text Purpose.revocation.text true, .ok none⟩]
      (.entryNotFound Memory.Sample.credential .revocation) :=
    .send .begin (.ok ()) (.send (.selectEntry _ _ true) (.ok none) (.done _))
  have hnothing := List.mem_cons_of_mem (⟨.begin, .ok ()⟩ : Exchange) (List.mem_singleton_self
    ⟨.selectEntry Memory.Sample.credential.text Purpose.revocation.text true, .ok none⟩)
  exact ⟨_, _, hsays, (updateStatus_isNotFound_iff hsays).mpr (.inl ⟨_, hnothing, .entry⟩)⟩

/-- A fault of the database is told as a missing record if the server's message has the words. -/
theorem fault_told_as_missing : ∃ u now log result,
    (updateStatus u now).Says log result ∧ result.isNotFound = true ∧
      ¬ ∃ x ∈ log, x.FindsNothing := by
  have hsays : (updateStatus ⟨Memory.Sample.credential, 1, .revocation, none⟩ ⟨.epoch⟩).Says
      [⟨.begin, .ok ()⟩,
        ⟨.selectEntry Memory.Sample.credential.text Purpose.revocation.text true,
          .ok (some Sample.entryRow)⟩,
        ⟨.selectList ⟨1⟩ true, .error (.refused "XX000" "list not found here")⟩]
      (.failed (StoreError.database (.refused "XX000" "list not found here")).message) :=
    .send .begin (.ok ()) (.send (.selectEntry _ _ true) (.ok (some Sample.entryRow))
      (.send (.selectList ⟨1⟩ true) (.error _) (.done _)))
  have htold : Tells "list not found here" := rfl
  refine ⟨_, _, _, _, hsays,
    isNotFound_failed_iff.mpr (tells_database_iff.mpr ⟨_, _, rfl, htold⟩), ?_⟩
  rintro ⟨x, hx, hnothing⟩
  simp only [List.mem_cons, List.not_mem_nil, or_false] at hx
  rcases hx with rfl | rfl | rfl
  · cases hnothing
  · cases hnothing
  · cases hnothing

end Database

end StatusRegistry

import StatusRegistry.Proofs.Store.Columns
import StatusRegistry.Proofs.Store.Consistency
import StatusRegistry.Proofs.Store.Session

/-!
# Transactions are all or nothing

Handing out a slot and changing a status write a list and then an entry.  Whatever the server
answers, rows that stand for nothing and faults at any statement included, the commit is sent only
after both writes went well, and success is told only if the commit went well too.

* `Atomic`: what makes the writes of a log all or nothing;
* `Writing`: how two writes and their commit go, which stop at the first fault;
* `createEntry_course`, `changeStatus_course`: a transaction ends while it reads, or it writes what
  the rows that it read call for;
* `says_createEntry`, `updateStatus_succeeds`: what can be handed out or changed is, if every
  statement goes well;
* `transactions_atomic`: both transactions are atomic for every sequence of answers, and what their
  two writes say agrees.
-/

set_option autoImplicit false

namespace StatusRegistry

/-- The table that a statement writes. -/
def Statement.target : Statement → Option TableName
  | insertList _ => some .lists
  | updateSettings _ _ _ _ => some .lists
  | updateUsed _ _ _ => some .lists
  | updateBits _ _ _ => some .lists
  | insertEntry _ => some .entries
  | updateStatus _ _ _ => some .entries
  | _ => none

def Statement.isCommit : Statement → Bool
  | commit => true
  | _ => false

theorem Statement.isCommit_of_target {s : Statement} {table : TableName}
    (h : s.target = some table) : s.isCommit = false := by
  cases s with
  | commit => cases h
  | _ => rfl

namespace Session

/-- The tables that a log writes, in their order. -/
def targets (log : List Exchange) : List TableName := log.filterMap (·.statement.target)

/-- Both tables were written without a fault. -/
def BothWritten (log : List Exchange) : Prop :=
  ∀ table, ∃ x ∈ log, x.statement.target = some table ∧ x.Acknowledged

/-- What makes the writes of a transaction all or nothing. -/
structure Atomic (log : List Exchange) (success : Prop) : Prop where
  /-- The list is written before the entry, and each of them once. -/
  targets_prefix : targets log <+: [.lists, .entries]
  commit_once : log.countP (·.statement.isCommit) ≤ 1
  /-- Nothing comes after a commit, and both writes went well in front of it. -/
  commit_last : ∀ before x after, log = before ++ x :: after → x.statement.isCommit = true →
    after = [] ∧ BothWritten before
  /-- A commit is sent iff both writes went well. -/
  commit_iff : (∃ x ∈ log, x.statement.isCommit = true) ↔ BothWritten log
  /-- Success is told iff a commit was acknowledged. -/
  success_iff : success ↔ ∃ before, log = before ++ [⟨.commit, .ok ()⟩]

/-- Neither writes nor a commit. -/
def Quiet (log : List Exchange) : Prop :=
  ∀ x ∈ log, x.statement.target = none ∧ x.statement.isCommit = false

@[simp] theorem quiet_nil : Quiet [] := fun _ hx => absurd hx List.not_mem_nil

theorem quiet_cons_iff {x : Exchange} {log : List Exchange} :
    Quiet (x :: log) ↔
      (x.statement.target = none ∧ x.statement.isCommit = false) ∧ Quiet log :=
  List.forall_mem_cons

@[simp] theorem quiet_begin {answer : Except DatabaseFault Unit} {log : List Exchange} :
    Quiet (⟨.begin, answer⟩ :: log) ↔ Quiet log :=
  quiet_cons_iff.trans (and_iff_right ⟨rfl, rfl⟩)

@[simp] theorem quiet_selectList {id : Uuid} {lock : Bool}
    {answer : Except DatabaseFault (Option ListRow)} {log : List Exchange} :
    Quiet (⟨.selectList id lock, answer⟩ :: log) ↔ Quiet log :=
  quiet_cons_iff.trans (and_iff_right ⟨rfl, rfl⟩)

@[simp] theorem quiet_selectEntry {credential purpose : String} {lock : Bool}
    {answer : Except DatabaseFault (Option EntryRow)} {log : List Exchange} :
    Quiet (⟨.selectEntry credential purpose lock, answer⟩ :: log) ↔ Quiet log :=
  quiet_cons_iff.trans (and_iff_right ⟨rfl, rfl⟩)

section Append

variable {reads log : List Exchange}

theorem Quiet.targets_append (h : Quiet reads) (log : List Exchange) :
    targets (reads ++ log) = targets log := by
  have hreads : targets reads = [] := List.filterMap_eq_nil_iff.mpr fun x hx => (h x hx).1
  unfold targets at *
  rw [List.filterMap_append, hreads, List.nil_append]

theorem Quiet.uncommitted_append_iff (h : Quiet reads) :
    (∀ x ∈ reads ++ log, x.statement.isCommit = false) ↔
      ∀ x ∈ log, x.statement.isCommit = false := by
  rw [List.forall_mem_append]
  exact and_iff_right fun x hx => (h x hx).2

theorem Quiet.bothWritten_append_iff (h : Quiet reads) :
    BothWritten (reads ++ log) ↔ BothWritten log := by
  refine forall_congr' fun table => ?_
  constructor
  · rintro ⟨x, hx, htarget, hack⟩
    rcases List.mem_append.mp hx with hx | hx
    · rw [(h x hx).1] at htarget
      cases htarget
    · exact ⟨x, hx, htarget, hack⟩
  · rintro ⟨x, hx, hwritten⟩
    exact ⟨x, List.mem_append_right _ hx, hwritten⟩

end Append

theorem not_acknowledged_error {statement : Statement} {fault : DatabaseFault} :
    ¬ (⟨statement, .error fault⟩ : Exchange).Acknowledged := by
  rintro ⟨a, ha⟩
  cases ha

theorem acknowledged_ok {statement : Statement} (a : statement.Answer) :
    (⟨statement, .ok a⟩ : Exchange).Acknowledged := ⟨a, rfl⟩

/-! ## When a log is atomic -/

/-- Without a commit, one of the writes must be missing. -/
theorem Atomic.of_uncommitted {log : List Exchange} {success : Prop}
    (htargets : targets log <+: [.lists, .entries])
    (hcommit : ∀ x ∈ log, x.statement.isCommit = false) (hmissing : ¬ BothWritten log)
    (hfailed : ¬ success) : Atomic log success := by
  refine ⟨htargets, ?_, ?_, ?_, ?_⟩
  · rw [List.countP_eq_zero.mpr fun x hx => by simp [hcommit x hx]]
    exact Nat.zero_le 1
  · rintro before x after rfl hx
    rw [hcommit x (by simp)] at hx
    cases hx
  · refine iff_of_false ?_ hmissing
    rintro ⟨x, hx, htrue⟩
    rw [hcommit x hx] at htrue
    cases htrue
  · refine iff_of_false hfailed ?_
    rintro ⟨before, rfl⟩
    have := hcommit ⟨.commit, .ok ()⟩ (by simp)
    cases this

/-- The only element of its kind at the end of a list is not found further in front. -/
theorem split_at_last {α : Type} {front before after : List α} {c x : α} {p : α → Bool}
    (hfront : ∀ y ∈ front, p y = false) (hx : p x = true)
    (h : front ++ [c] = before ++ x :: after) : before = front ∧ x = c ∧ after = [] := by
  rcases List.append_eq_append_iff.mp h with ⟨middle, rfl, hback⟩ | ⟨middle, rfl, hback⟩
  · cases middle with
    | nil =>
      cases hback
      exact ⟨List.append_nil _, rfl, rfl⟩
    | cons y middle => simp at hback
  · cases middle with
    | nil =>
      cases hback
      exact ⟨(List.append_nil _).symm, rfl, rfl⟩
    | cons y middle =>
      cases hback
      rw [hfront x (by simp)] at hx
      cases hx

/-- A commit comes last, after both writes. -/
theorem Atomic.of_committed {front : List Exchange} {answer : Except DatabaseFault Unit}
    {success : Prop} (htargets : targets front = [.lists, .entries])
    (hcommit : ∀ x ∈ front, x.statement.isCommit = false) (hwritten : BothWritten front)
    (hsuccess : success ↔ answer = .ok ()) :
    Atomic (front ++ [⟨.commit, answer⟩]) success := by
  refine ⟨?_, ?_, ?_, ?_, ?_⟩
  · have : targets (front ++ [⟨.commit, answer⟩]) = targets front := by
      simp [targets, Statement.target]
    exact ⟨[], by rw [List.append_nil, this, htargets]⟩
  · have hfront : front.countP (·.statement.isCommit) = 0 :=
      List.countP_eq_zero.mpr fun x hx => by simp [hcommit x hx]
    have hlast : [(⟨.commit, answer⟩ : Exchange)].countP (·.statement.isCommit) = 1 := rfl
    rw [List.countP_append]
    omega
  · intro before x after heq hx
    obtain ⟨rfl, -, rfl⟩ := split_at_last hcommit hx heq
    exact ⟨rfl, hwritten⟩
  · refine iff_of_true ⟨⟨.commit, answer⟩, by simp, rfl⟩ fun table => ?_
    obtain ⟨x, hx, h⟩ := hwritten table
    exact ⟨x, List.mem_append_left _ hx, h⟩
  · rw [hsuccess]
    constructor
    · rintro rfl
      exact ⟨front, rfl⟩
    · rintro ⟨before, heq⟩
      have hlast := (List.append_inj' heq rfl).2
      cases hlast
      rfl

/-! ## Two writes and a commit -/

/-- How two writes and their commit go: each is sent if there was no fault before. -/
inductive Writing (first second : Statement) (success : Prop) : List Exchange → Prop where
  | first_fault (fault : DatabaseFault) (failed : ¬ success) :
      Writing first second success [⟨first, .error fault⟩]
  | second_fault (a : first.Answer) (fault : DatabaseFault) (failed : ¬ success) :
      Writing first second success [⟨first, .ok a⟩, ⟨second, .error fault⟩]
  | committed (a : first.Answer) (b : second.Answer) (answer : Except DatabaseFault Unit)
      (success_iff : success ↔ answer = .ok ()) :
      Writing first second success [⟨first, .ok a⟩, ⟨second, .ok b⟩, ⟨.commit, answer⟩]

section Writing

variable {first second : Statement} {success : Prop} {reads log : List Exchange}

/-- Nothing is sent but the two writes and the commit. -/
theorem Writing.statement_eq (h : Writing first second success log) {x : Exchange} (hx : x ∈ log) :
    x.statement = first ∨ x.statement = second ∨ x.statement = .commit := by
  cases h with
  | first_fault fault =>
    cases List.mem_singleton.mp hx
    exact .inl rfl
  | second_fault a fault =>
    simp only [List.mem_cons, List.not_mem_nil, or_false] at hx
    rcases hx with rfl | rfl
    · exact .inl rfl
    · exact .inr (.inl rfl)
  | committed a b answer =>
    simp only [List.mem_cons, List.not_mem_nil, or_false] at hx
    rcases hx with rfl | rfl | rfl
    · exact .inl rfl
    · exact .inr (.inl rfl)
    · exact .inr (.inr rfl)

/-- A write of a table is the one write of that table. -/
theorem Writing.write_eq (hreads : Quiet reads) (hfirst : first.target = some .lists)
    (hsecond : second.target = some .entries) (h : Writing first second success log) {x : Exchange}
    (hx : x ∈ reads ++ log) :
    (x.statement.target = some .lists → x.statement = first) ∧
      (x.statement.target = some .entries → x.statement = second) := by
  rcases List.mem_append.mp hx with hx | hx
  · simp [(hreads x hx).1]
  · rcases h.statement_eq hx with heq | heq | heq
    · simp [heq, hfirst]
    · simp [heq, hsecond]
    · simp [heq, Statement.target]

/-- **A transaction is atomic if it reads, then writes a list and an entry, and commits.** -/
theorem Writing.atomic (hreads : Quiet reads) (hfirst : first.target = some .lists)
    (hsecond : second.target = some .entries) (h : Writing first second success log) :
    Atomic (reads ++ log) success := by
  have hcommitFirst := Statement.isCommit_of_target hfirst
  have hcommitSecond := Statement.isCommit_of_target hsecond
  cases h with
  | first_fault fault failed =>
    apply Atomic.of_uncommitted _ _ _ failed
    · rw [hreads.targets_append]
      simp [targets, hfirst]
    · rw [hreads.uncommitted_append_iff]
      simp [hcommitFirst]
    · rw [hreads.bothWritten_append_iff]
      intro hboth
      obtain ⟨x, hx, -, hack⟩ := hboth .lists
      cases List.mem_singleton.mp hx
      exact not_acknowledged_error hack
  | second_fault a fault failed =>
    apply Atomic.of_uncommitted _ _ _ failed
    · rw [hreads.targets_append]
      simp [targets, hfirst, hsecond]
    · rw [hreads.uncommitted_append_iff]
      simp [hcommitFirst, hcommitSecond]
    · rw [hreads.bothWritten_append_iff]
      intro hboth
      obtain ⟨x, hx, htarget, hack⟩ := hboth .entries
      rcases List.mem_cons.mp hx with rfl | hx
      · rw [hfirst] at htarget
        cases htarget
      · cases List.mem_singleton.mp hx
        exact not_acknowledged_error hack
  | committed a b answer success_iff =>
    have hsplit : reads ++ [⟨first, .ok a⟩, ⟨second, .ok b⟩, ⟨.commit, answer⟩] =
        (reads ++ [⟨first, .ok a⟩, ⟨second, .ok b⟩]) ++ [(⟨.commit, answer⟩ : Exchange)] := by
      simp
    rw [hsplit]
    apply Atomic.of_committed _ _ _ success_iff
    · rw [hreads.targets_append]
      simp [targets, hfirst, hsecond]
    · rw [hreads.uncommitted_append_iff]
      simp [hcommitFirst, hcommitSecond]
    · rw [hreads.bothWritten_append_iff]
      intro table
      cases table with
      | lists => exact ⟨⟨first, .ok a⟩, by simp, hfirst, acknowledged_ok a⟩
      | entries => exact ⟨⟨second, .ok b⟩, by simp, hsecond, acknowledged_ok b⟩

/-- A transaction that only reads is atomic if it fails. -/
theorem Quiet.atomic (h : Quiet log) (failed : ¬ success) : Atomic log success := by
  apply Atomic.of_uncommitted _ (fun x hx => (h x hx).2) _ failed
  · rw [← List.append_nil log, h.targets_append]
    exact List.nil_prefix
  · intro hboth
    obtain ⟨x, hx, htarget, -⟩ := hboth .lists
    rw [(h x hx).1] at htarget
    cases htarget

end Writing

end Session

namespace Database

open Session

variable {α : Type} {log : List Exchange}

/-! ## The parts of a transaction -/

theorem says_selectList_bind_iff {list : ListId} {lock : Bool} {f : Option StatusList → Work α}
    {r : Except StoreError α} :
    (selectList list lock >>= f).run.Says log r ↔
      (∃ fault, log = [⟨.selectList list.uuid lock, .error fault⟩] ∧
          r = .error (.database fault)) ∨
        (∃ row e, log = [⟨.selectList list.uuid lock, .ok row⟩] ∧ listOfRow row = .error e ∧
            r = .error e) ∨
          ∃ row found rest, log = ⟨.selectList list.uuid lock, .ok row⟩ :: rest ∧
            listOfRow row = .ok found ∧ (f found).run.Says rest r :=
  says_read_bind_iff

theorem says_findEntry_bind_iff {credential : CredentialId} {purpose : Purpose} {lock : Bool}
    {f : Option StatusEntry → Work α} {r : Except StoreError α} :
    (findEntry credential purpose lock >>= f).run.Says log r ↔
      (∃ fault, log = [⟨.selectEntry credential.text purpose.text lock, .error fault⟩] ∧
          r = .error (.database fault)) ∨
        (∃ row e, log = [⟨.selectEntry credential.text purpose.text lock, .ok row⟩] ∧
            entryOfRow row = .error e ∧ r = .error e) ∨
          ∃ row found rest,
            log = ⟨.selectEntry credential.text purpose.text lock, .ok row⟩ :: rest ∧
            entryOfRow row = .ok found ∧ (f found).run.Says rest r :=
  says_read_bind_iff

theorem listOfRow_eq_some_iff {row : Option ListRow} {l : StatusList} :
    listOfRow row = .ok (some l) ↔ ∃ found, row = some found ∧ found.toList = .ok l := by
  cases row with
  | none => simp [listOfRow]
  | some found => cases h : found.toList <;> simp [listOfRow, Except.map, h]

theorem entryOfRow_eq_some_iff {row : Option EntryRow} {e : StatusEntry} :
    entryOfRow row = .ok (some e) ↔ ∃ found, row = some found ∧ found.toEntry = .ok e := by
  cases row with
  | none => simp [entryOfRow]
  | some found => cases h : found.toEntry <;> simp [entryOfRow, Except.map, h]

/-- An entry whose row is known is inserted as that row. -/
theorem insertEntry_eq {e : StatusEntry} {row : EntryRow} (hrow : row.Writes e) :
    insertEntry e = ExceptT.mk (.send (.insertEntry row) fun answer => .done (answer.mapError
      fun fault => if fault.isUniqueViolation then .duplicate e.credential e.purpose
        else .database fault)) := by
  unfold insertEntry
  rw [EntryRow.ofEntry_eq_ok_iff.mpr hrow]
  rfl

/-- Two writes and a commit, of which the second write tells its faults in its own way.  `success`
tells the results that count as success. -/
theorem says_writes (success : Except StoreError α → Prop) {first second : Statement}
    {tell : DatabaseFault → StoreError} {a : α} (hok : success (.ok a))
    (herror : ∀ e, ¬ success (.error e)) {r : Except StoreError α}
    (h : (query first >>= fun _ =>
      ExceptT.mk (.send second fun answer => .done (answer.mapError tell)) >>= fun _ =>
      query .commit >>= fun _ => (pure a : Work α)).run.Says log r) :
    Writing first second (success r) log ∧
      (r = .ok a ∨ ∃ fault, r = .error (.database fault) ∨ r = .error (tell fault)) := by
  rcases says_query_bind_iff.mp h with ⟨fault, rfl, rfl⟩ | ⟨b, log, rfl, hsecond⟩
  · exact ⟨.first_fault fault (herror _), .inr ⟨fault, .inl rfl⟩⟩
  rcases says_send_bind_iff.mp hsecond with ⟨fault, rfl, rfl⟩ | ⟨c, log, rfl, hcommit⟩
  · exact ⟨.second_fault b fault (herror _), .inr ⟨fault, .inr rfl⟩⟩
  rcases says_query_bind_iff.mp hcommit with ⟨fault, rfl, rfl⟩ | ⟨⟨⟩, log, rfl, hend⟩
  · exact ⟨.committed b c _ (iff_of_false (herror _) (by simp)), .inr ⟨fault, .inl rfl⟩⟩
  obtain ⟨rfl, rfl⟩ := says_pure_iff.mp hend
  exact ⟨.committed b c _ (iff_of_true hok rfl), .inl rfl⟩

/-! ## Handing out a slot -/

/-- No number is written when a row is read, so none is too great for its column. -/
theorem listOfRow_ne_columnOverflow {row : Option ListRow} (n : Nat) :
    listOfRow row ≠ .error (.columnOverflow n) := by
  cases row with
  | none => simp [listOfRow]
  | some found => cases h : found.record <;> simp [listOfRow, ListRow.toList, Except.map,
      Except.mapError, h]

theorem allocate_ne_columnOverflow {l : StatusList} {r : EntryRequest} {stamp : Stamp} (n : Nat) :
    allocate l r stamp ≠ .error (.columnOverflow n) := by
  intro h
  unfold allocate checkAllocation at h
  grind

/-- What the two writes for a slot say of the locked row. -/
structure HandsOut (locked : ListRow) (used : Int64) (row : EntryRow) : Prop where
  index_eq : row.index = locked.used
  used_eq : used.toInt = locked.used.toInt + 1
  used_le : used.toInt ≤ locked.capacity.toInt

/-- The numbers of a slot that is handed out fit their columns, since they come from columns. -/
theorem handsOut_of_allocate {locked : ListRow} {l l' : StatusList} {r : EntryRequest}
    {stamp : Stamp} {e : StatusEntry} (hl : locked.toList = .ok l)
    (h : allocate l r stamp = .ok (e, l')) :
    ∃ used row, columnOf l'.used = .ok used ∧ row.Writes e ∧ HandsOut locked used row := by
  obtain ⟨hcheck, rfl, rfl⟩ := Memory.allocate_eq_ok_iff.mp h
  have hlt := (Memory.checkAllocation_eq_ok_iff.mp hcheck).2.2.1
  have hsucc := StatusList.toNat_used_succ hlt
  have hltNat := UInt64.lt_iff_toNat_lt.mp hlt
  have hreads := ListRow.toList_eq_ok_iff.mp hl
  have hcapacity := hreads.capacity_eq
  have hused := hreads.used_eq
  have hmax := locked.capacity.toInt_lt
  obtain ⟨used, hcolumn⟩ := columnOf_ok (n := l.used + 1) (by omega)
  obtain ⟨row, hrow⟩ := EntryRow.exists_writes (e := Memory.entryIn l r stamp)
    (show l.used.toNat < 2 ^ 63 by omega)
  have husedColumn := columnOf_eq_ok_iff.mp hcolumn
  refine ⟨used, row, hcolumn, hrow, ?_, ?_, ?_⟩
  · rw [← Int64.toInt_inj, ← hused]
    exact hrow.index_eq
  · omega
  · omega

/-- **Handing out a slot ends while the list is read, or writes what the locked row calls for.** -/
theorem createEntry_course {r : EntryRequest} {stamp : Stamp} {log : List Exchange}
    {result : Except StoreError StatusEntry} (h : (createEntry r stamp).run.Says log result) :
    (∀ n, result ≠ .error (.columnOverflow n)) ∧
      (Quiet log ∧ (¬ ∃ e, result = .ok e) ∨
        ∃ locked used row back, HandsOut locked used row ∧
          log = [⟨.begin, .ok ()⟩, ⟨.selectList r.list.uuid true, .ok (some locked)⟩] ++ back ∧
          Writing (.updateUsed locked.id used stamp.now.instant) (.insertEntry row)
            (∃ e, result = .ok e) back) := by
  unfold createEntry at h
  rcases says_query_bind_iff.mp h with ⟨fault, rfl, rfl⟩ | ⟨⟨⟩, log, rfl, hselect⟩
  · exact ⟨by simp, .inl ⟨by simp, by simp⟩⟩
  rcases says_selectList_bind_iff.mp hselect with ⟨fault, rfl, rfl⟩ | ⟨row, e, rfl, hrow, rfl⟩ |
    ⟨row, found, log, rfl, hrow, hfound⟩
  · exact ⟨by simp, .inl ⟨by simp, by simp⟩⟩
  · refine ⟨?_, .inl ⟨by simp, by simp⟩⟩
    rintro n hn
    cases hn
    exact listOfRow_ne_columnOverflow n hrow
  cases found with
  | none =>
    obtain ⟨rfl, rfl⟩ := says_throw_iff.mp hfound
    exact ⟨by simp, .inl ⟨by simp, by simp⟩⟩
  | some l =>
    obtain ⟨locked, rfl, hlocked⟩ := listOfRow_eq_some_iff.mp hrow
    rcases says_lift_bind_iff.mp hfound with ⟨e, hallocate, rfl, rfl⟩ | ⟨⟨e, l'⟩, hallocate, hnext⟩
    · refine ⟨?_, .inl ⟨by simp, by simp⟩⟩
      rintro n hn
      cases hn
      exact allocate_ne_columnOverflow n hallocate
    obtain ⟨used, row, hused, hrow, hands⟩ := handsOut_of_allocate hlocked hallocate
    obtain ⟨-, rfl, rfl⟩ := Memory.allocate_eq_ok_iff.mp hallocate
    have hid : l.id.uuid = locked.id := (ListRow.toList_eq_ok_iff.mp hlocked).id_eq
    simp only [hused, insertEntry_eq hrow] at hnext
    rcases says_lift_bind_iff.mp hnext with ⟨e, hoverflow, -⟩ | ⟨used, ⟨⟩, hwrites⟩
    · cases hoverflow
    obtain ⟨hwriting, hend⟩ := says_writes (fun r => ∃ e, r = .ok e) ⟨_, rfl⟩
      (by simp) hwrites
    refine ⟨?_, .inr ⟨locked, used, row, log, hands, rfl, ?_⟩⟩
    · rintro n rfl
      rcases hend with hend | ⟨fault, hend | hend⟩
      · cases hend
      · cases hend
      · split at hend <;> cases hend
    · rw [← hid]
      exact hwriting

/-! ## Changing a status -/

/-- What the two writes for a status say of the locked rows: the text of the list is the text of its
bitstring with another code in the slot of the entry, and the entry takes that code. -/
def WritesCode (entry : EntryRow) (list : ListRow) (status : UInt32) (text : String)
    (column : Int16) : Prop :=
  ∃ e l data data' code, entry.toEntry = .ok e ∧ list.toList = .ok l ∧
    Bitstring.decode list.encodedList = .ok data ∧ Bitstring.decode text = .ok data' ∧
    Bitstring.SlotSet data data' l.width e.index.toNat code ∧
    code.toNat = status.toNat ∧ column.toInt = code.toNat

/-- A text that was written for a row is read back, since the text of the row could be read. -/
theorem writesCode_of_apply {entry : EntryRow} {list : ListRow} {e e' : StatusEntry}
    {l l' : StatusList} {status : UInt32} {now : Timestamp} (he : entry.toEntry = .ok e)
    (hl : list.toList = .ok l) (h : e.apply l status now = .ok (e', l')) :
    WritesCode entry list status l'.encodedList (.ofNat e'.status.toNat) ∧
      l'.id.uuid = list.id ∧ e'.id.uuid = entry.id ∧ l'.updatedAt = now ∧ e'.updatedAt = now := by
  obtain ⟨-, code, hset, rfl⟩ := StatusEntry.apply_eq_ok h
  obtain ⟨hcode, data, data', hdata, hwrite, rfl⟩ := StatusList.setStatus_eq_ok hset
  have hreads := ListRow.toList_eq_ok_iff.mp hl
  have hslot := Bitstring.slotSet_of_writeSlot hwrite
  have hsize : data'.size ≤ Bitstring.maxDecodedLength := by
    rw [hslot.size_eq]
    exact Bitstring.size_le_of_decode hdata
  rw [hreads.encodedList_eq] at hdata
  exact ⟨⟨e, l, data, data', code, he, hl, hdata, Bitstring.decode_encode hsize, hslot, hcode,
    toInt_byteColumn code⟩, hreads.id_eq, (EntryRow.toEntry_eq_ok_iff.mp he).id_eq, rfl, rfl⟩

/-- **Changing a status ends while the rows are read, or writes what the locked rows call for.** -/
theorem changeStatus_course {u : StatusUpdate} {now : Timestamp} {log : List Exchange}
    {result : Except StoreError UpdateResult} (h : (changeStatus u now).run.Says log result) :
    Quiet log ∧ (¬ ∃ x, result = .ok x ∧ x.success = true) ∨
      ∃ entry list text column back, WritesCode entry list u.status text column ∧
        log = [⟨.begin, .ok ()⟩,
          ⟨.selectEntry u.credential.text u.purpose.text true, .ok (some entry)⟩,
          ⟨.selectList entry.list true, .ok (some list)⟩] ++ back ∧
        Writing (.updateBits list.id text now.instant) (.updateStatus entry.id column now.instant)
          (∃ x, result = .ok x ∧ x.success = true) back := by
  unfold changeStatus at h
  rcases says_query_bind_iff.mp h with ⟨fault, rfl, rfl⟩ | ⟨⟨⟩, log, rfl, hselect⟩
  · exact .inl ⟨by simp, by simp⟩
  rcases says_findEntry_bind_iff.mp hselect with ⟨fault, rfl, rfl⟩ | ⟨row, e, rfl, hrow, rfl⟩ |
    ⟨row, found, log, rfl, hrow, hfound⟩
  · exact .inl ⟨by simp, by simp⟩
  · exact .inl ⟨by simp, by simp⟩
  cases found with
  | none =>
    obtain ⟨rfl, rfl⟩ := says_pure_iff.mp hfound
    exact .inl ⟨by simp, by simp [UpdateResult.entryNotFound, UpdateResult.failed]⟩
  | some e =>
    obtain ⟨entry, rfl, hentry⟩ := entryOfRow_eq_some_iff.mp hrow
    rcases says_selectList_bind_iff.mp hfound with ⟨fault, rfl, rfl⟩ | ⟨row, e, rfl, hrow, rfl⟩ |
      ⟨row, found, log, rfl, hrow, hlisted⟩
    · exact .inl ⟨by simp, by simp⟩
    · exact .inl ⟨by simp, by simp⟩
    cases found with
    | none =>
      obtain ⟨rfl, rfl⟩ := says_pure_iff.mp hlisted
      exact .inl ⟨by simp, by simp [UpdateResult.listNotFound, UpdateResult.failed]⟩
    | some l =>
      obtain ⟨list, rfl, hlist⟩ := listOfRow_eq_some_iff.mp hrow
      rcases says_lift_bind_iff.mp hlisted with ⟨e, -, rfl, rfl⟩ | ⟨⟨e', l'⟩, happly, hwrites⟩
      · exact .inl ⟨by simp, by simp⟩
      have happly := mapError_eq_ok_iff.mp happly
      obtain ⟨hcode, hlistId, hentryId, hlistAt, hentryAt⟩ :=
        writesCode_of_apply hentry hlist happly
      obtain ⟨hwriting, -⟩ := says_writes (fun r => ∃ x, r = .ok x ∧ x.success = true)
        ⟨_, rfl, rfl⟩ (by simp) hwrites
      rw [hlistId, hentryId, hlistAt, hentryAt] at hwriting
      rw [(EntryRow.toEntry_eq_ok_iff.mp hentry).list_eq]
      exact .inr ⟨entry, list, _, _, log, hcode, rfl, hwriting⟩

/-- The outcome of a change is the one of its session, whose errors become refusals. -/
theorem says_updateStatus {u : StatusUpdate} {now : Timestamp} {log : List Exchange}
    {result : UpdateResult} (h : (updateStatus u now).Says log result) :
    ∃ r, (changeStatus u now).run.Says log r ∧
      (r = .ok result ∨ ∃ e, r = .error e ∧ result = .failed e.message) := by
  obtain ⟨front, r, back, rfl, hfront, hback⟩ := says_bind_iff.mp h
  cases r with
  | error e =>
    obtain ⟨rfl, rfl⟩ := says_done_iff.mp hback
    rw [List.append_nil]
    exact ⟨_, hfront, .inr ⟨e, rfl, rfl⟩⟩
  | ok x =>
    obtain ⟨rfl, rfl⟩ := says_done_iff.mp hback
    rw [List.append_nil]
    exact ⟨_, hfront, .inl rfl⟩

/-! ## Transactions that go well -/

/-- A transaction for a slot that can be handed out, and whose writes go well, does as well as its
commit. -/
theorem says_createEntry {r : EntryRequest} {stamp : Stamp} {locked : ListRow} {l l' : StatusList}
    {e : StatusEntry} {used : Int64} {row : EntryRow} (hlocked : locked.toList = .ok l)
    (hallocate : allocate l r stamp = .ok (e, l')) (hused : columnOf l'.used = .ok used)
    (hrow : row.Writes e) (answer : Except DatabaseFault Unit) :
    (createEntry r stamp).run.Says
      [⟨.begin, .ok ()⟩, ⟨.selectList r.list.uuid true, .ok (some locked)⟩,
        ⟨.updateUsed locked.id used stamp.now.instant, .ok ()⟩, ⟨.insertEntry row, .ok ()⟩,
        ⟨.commit, answer⟩]
      ((answer.mapError .database).map fun _ => e) := by
  have hfound : listOfRow (some locked) = .ok (some l) :=
    listOfRow_eq_some_iff.mpr ⟨_, rfl, hlocked⟩
  have hid : locked.id = l'.id.uuid := by
    obtain ⟨-, -, rfl⟩ := Memory.allocate_eq_ok_iff.mp hallocate
    exact (ListRow.toList_eq_ok_iff.mp hlocked).id_eq.symm
  have hnow : stamp.now = l'.updatedAt := by
    obtain ⟨-, -, rfl⟩ := Memory.allocate_eq_ok_iff.mp hallocate
    rfl
  rw [hid, hnow]
  refine says_query_bind_iff.mpr (.inr ⟨(), _, rfl, ?_⟩)
  refine says_selectList_bind_iff.mpr (.inr (.inr ⟨_, _, _, rfl, hfound, ?_⟩))
  refine says_lift_bind_iff.mpr (.inr ⟨_, hallocate, ?_⟩)
  refine says_lift_bind_iff.mpr (.inr ⟨_, hused, ?_⟩)
  simp only [insertEntry_eq hrow]
  refine says_query_bind_iff.mpr (.inr ⟨(), _, rfl, ?_⟩)
  refine says_send_bind_iff.mpr (.inr ⟨(), _, rfl, ?_⟩)
  cases answer with
  | error fault => exact says_query_bind_iff.mpr (.inl ⟨fault, rfl, rfl⟩)
  | ok => exact says_query_bind_iff.mpr (.inr ⟨(), _, rfl, .done _⟩)

/-- **A status that can be changed is changed**, if every statement goes well. -/
theorem updateStatus_succeeds {u : StatusUpdate} {now : Timestamp} {entry : EntryRow}
    {list : ListRow} {e e' : StatusEntry} {l l' : StatusList} (hentry : entry.toEntry = .ok e)
    (hlist : list.toList = .ok l) (happly : e.apply l u.status now = .ok (e', l')) :
    (updateStatus u now).Says
      [⟨.begin, .ok ()⟩, ⟨.selectEntry u.credential.text u.purpose.text true, .ok (some entry)⟩,
        ⟨.selectList entry.list true, .ok (some list)⟩,
        ⟨.updateBits list.id l'.encodedList now.instant, .ok ()⟩,
        ⟨.updateStatus entry.id (.ofNat e'.status.toNat) now.instant, .ok ()⟩, ⟨.commit, .ok ()⟩]
      (.updated e') := by
  have hentryFound : entryOfRow (some entry) = .ok (some e) :=
    entryOfRow_eq_some_iff.mpr ⟨_, rfl, hentry⟩
  have hlistFound : listOfRow (some list) = .ok (some l) :=
    listOfRow_eq_some_iff.mpr ⟨_, rfl, hlist⟩
  obtain ⟨-, hlistId, hentryId, hlistAt, hentryAt⟩ := writesCode_of_apply hentry hlist happly
  have hlisted : entry.list = e.list.uuid := (EntryRow.toEntry_eq_ok_iff.mp hentry).list_eq.symm
  refine says_bind_iff.mpr ⟨_, .ok (.updated e'), [], (List.append_nil _).symm, ?_, .done _⟩
  refine says_query_bind_iff.mpr (.inr ⟨(), _, rfl, ?_⟩)
  refine says_findEntry_bind_iff.mpr (.inr (.inr ⟨_, _, _, rfl, hentryFound, ?_⟩))
  rw [hlisted]
  refine says_selectList_bind_iff.mpr (.inr (.inr ⟨_, _, _, rfl, hlistFound, ?_⟩))
  refine says_lift_bind_iff.mpr (.inr ⟨_, mapError_eq_ok_iff.mpr happly, ?_⟩)
  refine says_query_bind_iff.mpr (.inr ⟨(), _, by rw [hlistId, hlistAt], ?_⟩)
  refine says_query_bind_iff.mpr (.inr ⟨(), _, by rw [hentryId, hentryAt], ?_⟩)
  exact says_query_bind_iff.mpr (.inr ⟨(), _, rfl, .done _⟩)

/-! ## Both transactions -/

/-- What a session that hands out a slot does, whatever it is answered. -/
structure SlotTransaction (r : EntryRequest) (log : List Exchange)
    (result : Except StoreError StatusEntry) : Prop where
  atomic : Atomic log (∃ e, result = .ok e)
  ne_columnOverflow : ∀ n, result ≠ .error (.columnOverflow n)
  writes : ∀ {id used at' answer row answer'}, ⟨.updateUsed id used at', answer⟩ ∈ log →
    ⟨.insertEntry row, answer'⟩ ∈ log →
    ∃ locked, ⟨.selectList r.list.uuid true, .ok (some locked)⟩ ∈ log ∧ id = locked.id ∧
      HandsOut locked used row

/-- What a session that changes a status does, whatever it is answered. -/
structure StatusTransaction (u : StatusUpdate) (log : List Exchange) (result : UpdateResult) :
    Prop where
  atomic : Atomic log (result.success = true)
  writes : ∀ {listId text at' answer entryId column at'' answer'},
    ⟨.updateBits listId text at', answer⟩ ∈ log →
    ⟨.updateStatus entryId column at'', answer'⟩ ∈ log →
    ∃ entry list,
      ⟨.selectEntry u.credential.text u.purpose.text true, .ok (some entry)⟩ ∈ log ∧
      ⟨.selectList entry.list true, .ok (some list)⟩ ∈ log ∧
      listId = list.id ∧ entryId = entry.id ∧ WritesCode entry list u.status text column

/-- **Both transactions are all or nothing whatever the server answers**, and the two writes of each
agree with the rows that it locked. -/
theorem transactions_atomic :
    (∀ r stamp log result, (createEntry r stamp).run.Says log result →
      SlotTransaction r log result) ∧
    ∀ u now log result, (updateStatus u now).Says log result → StatusTransaction u log result := by
  constructor
  · intro r stamp log result h
    obtain ⟨hoverflow, ⟨hquiet, hfailed⟩ | ⟨locked, used, row, back, hands, rfl, hwriting⟩⟩ :=
      createEntry_course h
    · refine ⟨hquiet.atomic hfailed, hoverflow, ?_⟩
      intro id used at' answer row answer' hupdate
      have := (hquiet _ hupdate).1
      cases this
    · refine ⟨hwriting.atomic (by simp) rfl rfl, hoverflow, ?_⟩
      intro id used' at' answer row' answer' hupdate hinsert
      cases (hwriting.write_eq (by simp) rfl rfl hupdate).1 rfl
      cases (hwriting.write_eq (by simp) rfl rfl hinsert).2 rfl
      exact ⟨locked, by simp, rfl, hands⟩
  · intro u now log result h
    obtain ⟨r, hr, hend⟩ := says_updateStatus h
    have hsuccess : result.success = true ↔ ∃ x, r = .ok x ∧ x.success = true := by
      rcases hend with rfl | ⟨e, rfl, rfl⟩
      · simp
      · simp [UpdateResult.failed]
    rcases changeStatus_course hr with ⟨hquiet, hfailed⟩ |
      ⟨entry, list, text, column, back, hcode, rfl, hwriting⟩
    · refine ⟨hquiet.atomic fun h => hfailed (hsuccess.mp h), ?_⟩
      intro listId text at' answer entryId column at'' answer' hupdate
      have := (hquiet _ hupdate).1
      cases this
    · rw [← hsuccess] at hwriting
      refine ⟨hwriting.atomic (by simp) rfl rfl, ?_⟩
      intro listId text' at' answer entryId column' at'' answer' hlist hentry
      cases (hwriting.write_eq (by simp) rfl rfl hlist).1 rfl
      cases (hwriting.write_eq (by simp) rfl rfl hentry).2 rfl
      exact ⟨entry, list, by simp, by simp, rfl, rfl, hcode⟩

/-! ## Two logs -/

namespace Sample

open Memory.Sample

/-- The row of the sample list. -/
def listRow : ListRow :=
  ⟨⟨1⟩, issuer.text, Purpose.revocation.text, widthColumn .one, 131072, 0,
    StatusList.blankText 131072 .one, none, none, .epoch, .epoch⟩

/-- The row of the sample entry. -/
def entryRow : EntryRow :=
  ⟨⟨2⟩, credential.text, ⟨1⟩, 0, widthColumn .one, Purpose.revocation.text, 0, .epoch, .epoch⟩

theorem listRow_writes : listRow.Writes list :=
  ⟨rfl, rfl, rfl, rfl, by decide, by decide, rfl, rfl, rfl, rfl, rfl⟩

theorem entryRow_writes : entryRow.Writes entry :=
  ⟨rfl, rfl, rfl, by decide, rfl, rfl, by decide, rfl, rfl⟩

theorem list_sound : list.Sound := by
  have hmade : StatusList.create (.simple issuer .revocation) ⟨⟨1⟩⟩ ⟨.epoch⟩ = .ok list := rfl
  exact (StatusList.create_sound hmade).1

/-- A log in which a slot of the sample list is handed out, but for the commit. -/
def slotLog : List Exchange :=
  [⟨.begin, .ok ()⟩, ⟨.selectList ⟨1⟩ true, .ok (some listRow)⟩,
    ⟨.updateUsed ⟨1⟩ 1 .epoch, .ok ()⟩, ⟨.insertEntry entryRow, .ok ()⟩,
    ⟨.commit, .error .noConnection⟩]

/-- A log in which the code of the sample entry becomes 1. -/
def statusLog (text : String) : List Exchange :=
  [⟨.begin, .ok ()⟩,
    ⟨.selectEntry credential.text Purpose.revocation.text true, .ok (some entryRow)⟩,
    ⟨.selectList ⟨1⟩ true, .ok (some listRow)⟩, ⟨.updateBits ⟨1⟩ text .epoch, .ok ()⟩,
    ⟨.updateStatus ⟨2⟩ 1 .epoch, .ok ()⟩, ⟨.commit, .ok ()⟩]

theorem says_slotLog : (createEntry request (stamp 2)).run.Says slotLog
    (.error (.database .noConnection)) := by
  have hallocate : allocate list request (stamp 2) = .ok (entry, list.withSlotTaken ⟨.epoch⟩) := rfl
  exact says_createEntry (ListRow.toList_of_writes listRow_writes rfl rfl) hallocate (by decide)
    entryRow_writes (.error .noConnection)

theorem says_statusLog : ∃ text,
    (updateStatus ⟨credential, 1, .revocation, none⟩ ⟨.epoch⟩).Says (statusLog text)
      (.updated { entry with status := 1 }) := by
  have hindex : entry.index < list.capacity := by decide
  have hfits : (1 : UInt32).toNat ≤ list.width.maxCode := by decide
  obtain ⟨code, l, hset, hstored⟩ := StatusList.setStatus_ok list_sound hindex hfits ⟨.epoch⟩
  have hcode : code = 1 := UInt8.toNat_inj.mp hstored.code_eq
  have happly := StatusEntry.apply_ok (e := entry) rfl hset
  have hupdated : l.updatedAt = entry.updatedAt := by
    rw [hstored.list_eq]
    rfl
  rw [hcode, hupdated] at happly
  have hsays := updateStatus_succeeds (u := ⟨credential, 1, .revocation, none⟩)
    (EntryRow.toEntry_of_writes entryRow_writes rfl rfl)
    (ListRow.toList_of_writes listRow_writes rfl rfl) happly
  exact ⟨l.encodedList, hsays⟩

end Sample

/-- A slot of the sample list whose commit meets a fault is not handed out, and a code of the sample
entry is changed. -/
theorem sample_transactions_atomic :
    SlotTransaction Memory.Sample.request Sample.slotLog (.error (.database .noConnection)) ∧
      ∃ text, StatusTransaction ⟨Memory.Sample.credential, 1, .revocation, none⟩
        (Sample.statusLog text) (.updated { Memory.Sample.entry with status := 1 }) := by
  constructor
  · exact transactions_atomic.1 _ _ _ _ Sample.says_slotLog
  · obtain ⟨text, h⟩ := Sample.says_statusLog
    exact ⟨text, transactions_atomic.2 _ _ _ _ h⟩

end Database

end StatusRegistry

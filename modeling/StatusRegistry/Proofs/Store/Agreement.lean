import StatusRegistry.Proofs.Store.Stored
import StatusRegistry.Proofs.Store.Transaction

/-!
# Both stores agree

A store in memory and a database whose rows hold the same records answer every operation in the
same way, and hold the same records after it.  They do not check in the same order: the one in
memory looks for a second entry before it hands out a slot, the other one after it has written the
list, and leaves that write uncommitted.

* `Database.perform`: an operation carried out by a server, with what is stored after it;
* `Agrees`: both stores answer an operation in the same way and hold the same after it, shown for
  each of the seven operations;
* `stores_agree`: whatever rows hold a store, both agree on every operation.
-/

set_option autoImplicit false

namespace StatusRegistry

namespace Database

open Session Memory

/-- An operation carried out by a server: the answer, and what is stored after it. -/
def perform (t : Tables) (stamp : Stamp) (q : StoreRequest) : q.Answer × Tables :=
  let (a, s) := (session stamp q).run Server.answer ⟨t, none⟩
  (a, s.stored)

/-- The rows and a store answer an operation in the same way and hold the same after it. -/
structure Agrees (t : Tables) (m : Memory) (stamp : Stamp) (q : StoreRequest) : Prop where
  answer_eq : (perform t stamp q).1 = (m.answer stamp q).1
  stores : (perform t stamp q).2.Stores (m.answer stamp q).2

theorem Agrees.of_run {t : Tables} {m m' : Memory} {stamp : Stamp} {q : StoreRequest}
    {a : q.Answer} {s : Server} (hrun : (session stamp q).run Server.answer ⟨t, none⟩ = (a, s))
    (hanswer : m.answer stamp q = (a, m')) (hstores : s.stored.Stores m') :
    Agrees t m stamp q := by
  have hperform : perform t stamp q = (a, s.stored) := by
    unfold perform
    rw [hrun]
  constructor
  · rw [hperform, hanswer]
  · rw [hperform, hanswer]
    exact hstores

section Operations

variable {t : Tables} {m : Memory} {stamp : Stamp}

/-! ## Reading -/

theorem run_selectList (list : ListId) (lock : Bool) (s : Server) :
    (selectList list lock).run.run Server.answer s = (listOfRow (s.seen.list? list.uuid), s) := rfl

theorem run_findEntry (credential : CredentialId) (purpose : Purpose) (lock : Bool) (s : Server) :
    (findEntry credential purpose lock).run.run Server.answer s =
      (entryOfRow (s.seen.entry? credential.text purpose.text), s) := rfl

theorem agrees_findList (h : t.Stores m) (hfits : m.FitsColumns) (list : ListId) :
    Agrees t m stamp (.findList list) := by
  refine .of_run (s := ⟨t, none⟩) ?_ rfl h
  show (selectList list false).run.run Server.answer ⟨t, none⟩ = _
  rw [run_selectList]
  exact congrArg (·, _) (h.listOfRow_list? hfits list)

theorem agrees_findAvailable (h : t.Stores m) (hm : m.Consistent) (hfits : m.FitsColumns)
    (issuer : IssuerId) (purpose : Purpose) (width : SlotWidth) :
    Agrees t m stamp (.findAvailable issuer purpose width) := by
  refine .of_run (s := ⟨t, none⟩) ?_ rfl h
  show (findAvailable issuer purpose width).run.run Server.answer ⟨t, none⟩ = _
  exact congrArg (·, _) (h.listOfRow_available? hm hfits issuer purpose width)

theorem agrees_findEntry (h : t.Stores m) (hm : m.Consistent) (hfits : m.FitsColumns)
    (credential : CredentialId) (purpose : Purpose) :
    Agrees t m stamp (.findEntry credential purpose) := by
  refine .of_run (s := ⟨t, none⟩) ?_ rfl h
  show (findEntry credential purpose false).run.run Server.answer ⟨t, none⟩ = _
  rw [run_findEntry]
  exact congrArg (·, _) (h.entryOfRow_entry? hm hfits credential purpose)

/-! ## Lists -/

/-- A list that is made fits its columns. -/
theorem exists_writes_create {r : ListRequest} {id : ListId} {now : Timestamp} {l : StatusList}
    (h : StatusList.create r id now = .ok l) : ∃ row : ListRow, row.Writes l := by
  obtain ⟨hsound, -, hused, -⟩ := StatusList.create_sound h
  have hcapacity := StatusList.capacity_toNat_le hsound.le_maxCapacity
  apply ListRow.exists_writes
  · omega
  · rw [hused]
    decide
  · exact ttl_lt_of_create h

theorem agrees_createList (h : t.Stores m) (r : ListRequest)
    (hfresh : m.lists[(⟨stamp.fresh⟩ : ListId)]? = none) : Agrees t m stamp (.createList r) := by
  cases hmade : StatusList.create r ⟨stamp.fresh⟩ stamp.now with
  | error e =>
    refine .of_run (a := .error (.rejected e)) (s := ⟨t, none⟩) ?_ ?_ h
    · show (createList r stamp).run.run Server.answer ⟨t, none⟩ = _
      unfold createList
      rw [hmade]
      rfl
    · show m.createList r stamp = _
      unfold Memory.createList
      rw [hmade]
  | ok l =>
    obtain ⟨row, hrow⟩ := exists_writes_create hmade
    have hid : l.id = ⟨stamp.fresh⟩ := (StatusList.create_sound hmade).2.1
    refine .of_run (a := .ok l) (s := ⟨t.addList row, none⟩) ?_ ?_
      (h.addList hrow (by rw [hid]; exact hfresh))
    · show (createList r stamp).run.run Server.answer ⟨t, none⟩ = _
      unfold createList
      rw [hmade]
      refine (run_work_bind_ok (run_lift rfl)).trans ?_
      refine (run_work_bind_ok (run_lift (ListRow.ofList_eq_ok_iff.mpr hrow))).trans ?_
      rfl
    · show m.createList r stamp = _
      unfold Memory.createList
      rw [hmade]

/-- The rows with other settings of a list. -/
theorem stores_settings (h : t.Stores m) {stored l : StatusList} (hstored : m.StoresList stored)
    {ttl : Option Int64} (httl : optionalColumnOf l.ttl = .ok ttl) :
    (t.setSettings stored.id.uuid ttl (l.metadata.map .object) l.updatedAt.instant).Stores
      (m.putList (withSettings stored l)) := by
  have hwrites : ∀ r : ListRow, r.Writes stored →
      ({ r with ttl, metadata := l.metadata.map .object, updatedAt := l.updatedAt.instant } :
        ListRow).Writes (withSettings stored l) :=
    fun _ hw => { hw with ttl_eq := httl, metadata_eq := rfl, updatedAt_eq := rfl }
  exact h.changeList hstored hwrites (fun _ => rfl) rfl

/-- How the settings of a list are stored, for what is found under its identifier. -/
theorem run_updateList {l : StatusList} {ttl : Option Int64} {s s' : Server}
    {found : Option ListRow} (httl : optionalColumnOf l.ttl = .ok ttl)
    (h : Server.answer s (.updateSettings l.id.uuid ttl (l.metadata.map .object)
      l.updatedAt.instant) = (.ok found, s')) :
    (updateList l).run.run Server.answer s =
      ((found.map ListRow.toList).getD (.error (.listNotFound l.id)), s') := by
  unfold updateList
  refine (run_work_bind_ok (run_lift httl)).trans ?_
  refine (run_work_bind_ok (run_query h)).trans ?_
  cases found <;> rfl

theorem agrees_updateList (h : t.Stores m) (hm : m.Consistent) (hfits : m.FitsColumns)
    (l : StatusList) (hl : (StoreRequest.updateList l).FitsColumns) :
    Agrees t m stamp (.updateList l) := by
  obtain ⟨ttl, httl⟩ := optionalColumnOf_ok hl.1
  have hrun : ∀ {t'} {found : Option ListRow},
      t.setSettings l.id.uuid ttl (l.metadata.map .object) l.updatedAt.instant = t' →
      t'.list? l.id.uuid = found →
      (session stamp (.updateList l)).run Server.answer ⟨t, none⟩ =
        ((found.map ListRow.toList).getD (.error (.listNotFound l.id)), ⟨t', none⟩) := by
    rintro _ _ rfl rfl
    exact run_updateList httl rfl
  cases hstored : m.lists[l.id]? with
  | none =>
    have hnone := h.list?_eq_none hstored
    refine .of_run (hrun (t.changeList_eq_self hnone _) hnone) ?_ h
    show m.updateList l = _
    unfold Memory.updateList
    rw [hstored]
    rfl
  | some stored =>
    have hputs := stores_settings h (hm.storesList hstored) httl
    have hput : (m.putList (withSettings stored l)).lists[stored.id]? =
        some (withSettings stored l) := putList_lists_self m (withSettings stored l)
    obtain ⟨row, hrow, hwrites⟩ := hputs.exists_list? hput
    have hread : row.toList = .ok (withSettings stored l) :=
      ListRow.toList_of_writes hwrites (hfits.list hstored).1 hl.2
    rw [hm.list_id hstored] at hputs hrow
    refine .of_run (hrun rfl hrow) ?_ hputs
    show m.updateList l = _
    unfold Memory.updateList
    rw [hstored, ← settings_eq_putList hm hstored]
    exact congrArg (·, _) hread.symm

/-! ## Transactions -/

/-- A transaction that begins with the locked row of a list goes on with the list. -/
theorem run_lockList (h : t.Stores m) (hfits : m.FitsColumns) {α : Type} (list : ListId)
    (f : Option StatusList → Work α) :
    (selectList list true >>= f).run.run Server.answer ⟨t, some t⟩ =
      (f m.lists[list]?).run.run Server.answer ⟨t, some t⟩ :=
  run_work_bind_ok (congrArg (·, _) (h.listOfRow_list? hfits list))

/-- Inserting an entry is turned down iff there is a row of its credential and purpose. -/
theorem run_insertEntry {e : StatusEntry} {row : EntryRow} (hrow : row.Writes e) (s : Server) :
    (insertEntry e).run.run Server.answer s =
      if (s.seen.entry? e.credential.text e.purpose.text).isSome then
        (.error (.duplicate e.credential e.purpose), s)
      else (.ok (), s.write (s.seen.addEntry row)) := by
  rw [insertEntry_eq hrow, ← hrow.credential_eq, ← hrow.purpose_eq]
  split
  · rename_i hsome
    have hanswer : Server.answer s (.insertEntry row) =
        (.error (.refused "23505" "duplicate key value violates unique constraint"), s) :=
      if_pos hsome
    exact run_send hanswer
  · rename_i hnone
    have hanswer : Server.answer s (.insertEntry row) = (.ok (), s.write (s.seen.addEntry row)) :=
      if_neg hnone
    exact run_send hanswer

/-- The writes for a slot are stored, or left uncommitted if there is an entry. -/
theorem run_slotWrites {e : StatusEntry} {row : EntryRow} (hrow : row.Writes e) (t : Tables)
    (id : Uuid) (used : Int64) (updatedAt : Instant) :
    (query (.updateUsed id used updatedAt) >>= fun _ => insertEntry e >>= fun _ =>
      query .commit >>= fun _ => (pure e : Work StatusEntry)).run.run Server.answer ⟨t, some t⟩ =
      if (t.entry? e.credential.text e.purpose.text).isSome then
        (.error (.duplicate e.credential e.purpose), ⟨t, some (t.setUsed id used updatedAt)⟩)
      else (.ok e, ⟨(t.setUsed id used updatedAt).addEntry row, none⟩) := by
  have hinsert := run_insertEntry hrow ⟨t, some (t.setUsed id used updatedAt)⟩
  refine (run_work_bind_ok (run_query rfl)).trans ?_
  split
  · rename_i hsome
    exact run_work_bind_error (hinsert.trans (if_pos hsome))
  · rename_i hnone
    exact (run_work_bind_ok (hinsert.trans (if_neg hnone))).trans rfl

/-- The rows of a list without its next slot. -/
theorem stores_setUsed (h : t.Stores m) {l : StatusList} (hl : m.StoresList l) {used : Int64}
    (hused : columnOf (l.used + 1) = .ok used) (now : Timestamp) :
    (t.setUsed l.id.uuid used now.instant).Stores (m.putList (l.withSlotTaken now)) := by
  have hwrites : ∀ r : ListRow, r.Writes l →
      ({ r with used, updatedAt := now.instant } : ListRow).Writes (l.withSlotTaken now) :=
    fun _ hw => { hw with used_eq := columnOf_eq_ok_iff.mp hused, updatedAt_eq := rfl }
  exact h.changeList hl hwrites (fun _ => rfl) rfl

/-- The numbers of a slot of a sound list fit their columns. -/
theorem columns_of_slot {l : StatusList} (hl : l.Sound) (hlt : l.used < l.capacity)
    (r : EntryRequest) (stamp : Stamp) :
    (∃ used, columnOf (l.used + 1) = .ok used) ∧
      ∃ row : EntryRow, row.Writes (entryIn l r stamp) := by
  have hcapacity := StatusList.capacity_toNat_le hl.le_maxCapacity
  have hltNat := UInt64.lt_iff_toNat_lt.mp hlt
  have hsucc := StatusList.toNat_used_succ hlt
  refine ⟨columnOf_ok (by omega), EntryRow.exists_writes ?_⟩
  show l.used.toNat < 2 ^ 63
  omega

/-- A credential is in the table of credentials iff it has an entry. -/
theorem contains_eq_isSome (hm : m.Consistent) (credential : CredentialId) (purpose : Purpose) :
    m.byCredential.contains (credential, purpose) = (m.findEntry credential purpose).isSome := by
  rw [Std.HashMap.contains_eq_isSome_getElem?]
  unfold Memory.findEntry
  cases hid : m.byCredential[(credential, purpose)]? with
  | none => rfl
  | some id =>
    obtain ⟨e, he, rfl, -, -⟩ := hm.byCredential_iff.mp hid
    have hstored : m.entries[e.id]? = some e := he
    simp only [hstored, Option.isSome_some]

/-- What the store in memory does with a slot that can be handed out. -/
theorem answer_createEntry {l l' : StatusList} {r : EntryRequest} {e : StatusEntry}
    (hm : m.Consistent) (hl : m.lists[r.list]? = some l)
    (hallocate : allocate l r stamp = .ok (e, l')) :
    m.answer stamp (.createEntry r) =
      if (m.findEntry r.credential r.purpose).isSome then
        (.error (.duplicate r.credential r.purpose), m)
      else (.ok e, ((m.putList l').index e).putEntry e) := by
  show m.createEntry r stamp = _
  unfold Memory.createEntry planEntry
  rw [hl, ← contains_eq_isSome hm]
  simp only [hallocate]
  cases m.byCredential.contains (r.credential, r.purpose) <;> rfl

/-- A transaction for a slot begins with the list of the request. -/
theorem run_createEntry_begin (h : t.Stores m) (hfits : m.FitsColumns) (r : EntryRequest)
    (f : Option StatusList → Work StatusEntry) :
    (query .begin >>= fun _ => selectList r.list true >>= f).run.run Server.answer ⟨t, none⟩ =
      (f m.lists[r.list]?).run.run Server.answer ⟨t, some t⟩ :=
  (run_work_bind_ok (run_query rfl)).trans (run_lockList h hfits r.list f)

/-- What the server does with a slot that can be handed out. -/
theorem run_createEntry {l l' : StatusList} {r : EntryRequest} {e : StatusEntry} {used : Int64}
    {row : EntryRow} (h : t.Stores m) (hfits : m.FitsColumns) (hl : m.lists[r.list]? = some l)
    (hallocate : allocate l r stamp = .ok (e, l')) (hused : columnOf l'.used = .ok used)
    (hrow : row.Writes e) :
    (createEntry r stamp).run.run Server.answer ⟨t, none⟩ =
      if (t.entry? e.credential.text e.purpose.text).isSome then
        (.error (.duplicate e.credential e.purpose),
          ⟨t, some (t.setUsed l'.id.uuid used l'.updatedAt.instant)⟩)
      else (.ok e, ⟨(t.setUsed l'.id.uuid used l'.updatedAt.instant).addEntry row, none⟩) := by
  refine (run_createEntry_begin h hfits r _).trans ?_
  rw [hl]
  refine (run_work_bind_ok (run_lift hallocate)).trans ?_
  refine (run_work_bind_ok (run_lift hused)).trans ?_
  exact run_slotWrites hrow t l'.id.uuid used l'.updatedAt.instant

theorem agrees_createEntry (h : t.Stores m) (hm : m.Consistent) (hfits : m.FitsColumns)
    (r : EntryRequest) (hfresh : m.entries[(⟨stamp.fresh⟩ : EntryId)]? = none) :
    Agrees t m stamp (.createEntry r) := by
  cases hl : m.lists[r.list]? with
  | none =>
    refine .of_run (a := .error (.listNotFound r.list)) (s := ⟨t, some t⟩) ?_ ?_ h
    · refine (run_createEntry_begin h hfits r _).trans ?_
      rw [hl]
      rfl
    · show m.createEntry r stamp = _
      unfold Memory.createEntry planEntry
      rw [hl]
  | some l =>
    cases hallocate : allocate l r stamp with
    | error e =>
      refine .of_run (a := .error e) (s := ⟨t, some t⟩) ?_ ?_ h
      · refine (run_createEntry_begin h hfits r _).trans ?_
        rw [hl]
        exact run_work_bind_error (run_lift hallocate)
      · show m.createEntry r stamp = _
        unfold Memory.createEntry planEntry
        rw [hl]
        simp only [hallocate]
    | ok both =>
      obtain ⟨e, l'⟩ := both
      have hstored := hm.storesList hl
      have hanswer := answer_createEntry hm hl hallocate
      obtain ⟨hcheck, rfl, rfl⟩ := allocate_eq_ok_iff.mp hallocate
      obtain ⟨⟨used, hused⟩, row, hrow⟩ := columns_of_slot (hm.sound hstored)
        (checkAllocation_eq_ok_iff.mp hcheck).2.2.1 r stamp
      have hrun := run_createEntry h hfits hl hallocate hused hrow
      rw [h.isSome_entry? hm] at hrun
      by_cases hfound : (m.findEntry r.credential r.purpose).isSome = true
      · -- the list is written, but nothing is committed
        exact .of_run (hrun.trans (if_pos hfound)) (hanswer.trans (if_pos hfound)) h
      · have hslot := stores_setUsed h hstored hused stamp.now
        exact .of_run (hrun.trans (if_neg hfound)) (hanswer.trans (if_neg hfound))
          ((hslot.index (entryIn l r stamp)).addEntry hrow hfresh)

/-- The rows of a list with another bitstring. -/
theorem stores_setBits (h : t.Stores m) {l : StatusList} (hl : m.StoresList l) (text : String)
    (now : Timestamp) :
    (t.setBits l.id.uuid text now.instant).Stores (m.putList (l.withEncodedList text now)) := by
  have hwrites : ∀ r : ListRow, r.Writes l →
      ({ r with encodedList := text, updatedAt := now.instant } : ListRow).Writes
        (l.withEncodedList text now) :=
    fun _ hw => { hw with encodedList_eq := rfl, updatedAt_eq := rfl }
  exact h.changeList hl hwrites (fun _ => rfl) rfl

/-- The rows of an entry with another code. -/
theorem stores_setStatus (h : t.Stores m) {e : StatusEntry} (he : m.StoresEntry e) (code : UInt8)
    (now : Timestamp) :
    (t.setStatus e.id.uuid (.ofNat code.toNat) now.instant).Stores
      (m.putEntry (entryWith e code now)) := by
  have hwrites : ∀ r : EntryRow, r.Writes e →
      ({ r with status := .ofNat code.toNat, updatedAt := now.instant } : EntryRow).Writes
        (entryWith e code now) :=
    fun _ hw => { hw with status_eq := rfl, updatedAt_eq := rfl }
  exact h.changeEntry he hwrites (fun _ => rfl) rfl

/-- The writes for a status are stored. -/
theorem run_statusWrites (t : Tables) (list entry : Uuid) (text : String) (status : Int16)
    (updatedAt : Instant) (result : UpdateResult) :
    (query (.updateBits list text updatedAt) >>= fun _ =>
      query (.updateStatus entry status updatedAt) >>= fun _ =>
      query .commit >>= fun _ => (pure result : Work UpdateResult)).run.run Server.answer
        ⟨t, some t⟩ =
      (.ok result, ⟨(t.setBits list text updatedAt).setStatus entry status updatedAt, none⟩) := by
  refine (run_work_bind_ok (run_query rfl)).trans ?_
  refine (run_work_bind_ok (run_query rfl)).trans ?_
  exact (run_work_bind_ok (run_query rfl)).trans rfl

/-- A change of a status begins with the entry. -/
theorem run_changeStatus_begin (h : t.Stores m) (hm : m.Consistent) (hfits : m.FitsColumns)
    (u : StatusUpdate) (f : Option StatusEntry → Work UpdateResult) :
    (query .begin >>= fun _ => findEntry u.credential u.purpose true >>= f).run.run
        Server.answer ⟨t, none⟩ =
      (f (m.findEntry u.credential u.purpose)).run.run Server.answer ⟨t, some t⟩ :=
  (run_work_bind_ok (run_query rfl)).trans
    (run_work_bind_ok (congrArg (·, _) (h.entryOfRow_entry? hm hfits u.credential u.purpose)))

theorem run_updateStatus_ok {u : StatusUpdate} {now : Timestamp} {s s' : Server}
    {result : UpdateResult}
    (h : (changeStatus u now).run.run Server.answer s = (.ok result, s')) :
    (updateStatus u now).run Server.answer s = (result, s') := by
  unfold updateStatus
  refine (run_bind _ _).trans ?_
  rw [h]
  rfl

theorem run_updateStatus_error {u : StatusUpdate} {now : Timestamp} {s s' : Server}
    {e : StoreError} (h : (changeStatus u now).run.run Server.answer s = (.error e, s')) :
    (updateStatus u now).run Server.answer s = (.failed e.message, s') := by
  unfold updateStatus
  refine (run_bind _ _).trans ?_
  rw [h]
  rfl

theorem agrees_updateStatus (h : t.Stores m) (hm : m.Consistent) (hfits : m.FitsColumns)
    (u : StatusUpdate) : Agrees t m stamp (.updateStatus u) := by
  have hanswer : m.answer stamp (.updateStatus u) = m.updateStatus u stamp.now := rfl
  unfold Memory.updateStatus at hanswer
  cases he : m.findEntry u.credential u.purpose with
  | none =>
    rw [he] at hanswer
    have hrun : (changeStatus u stamp.now).run.run Server.answer ⟨t, none⟩ =
        (.ok (.entryNotFound u.credential u.purpose), ⟨t, some t⟩) := by
      refine (run_changeStatus_begin h hm hfits u _).trans ?_
      rw [he]
      rfl
    exact .of_run (run_updateStatus_ok hrun) hanswer h
  | some e =>
    simp only [he] at hanswer
    cases hl : m.lists[e.list]? with
    | none =>
      simp only [hl] at hanswer
      have hrun : (changeStatus u stamp.now).run.run Server.answer ⟨t, none⟩ =
          (.ok (.listNotFound e.list), ⟨t, some t⟩) := by
        refine (run_changeStatus_begin h hm hfits u _).trans ?_
        rw [he]
        refine (run_lockList h hfits e.list _).trans ?_
        rw [hl]
        rfl
      exact .of_run (run_updateStatus_ok hrun) hanswer h
    | some l =>
      simp only [hl] at hanswer
      cases happly : e.apply l u.status stamp.now with
      | error err =>
        simp only [happly] at hanswer
        have hrun : (changeStatus u stamp.now).run.run Server.answer ⟨t, none⟩ =
            (.error (.rejected err), ⟨t, some t⟩) := by
          refine (run_changeStatus_begin h hm hfits u _).trans ?_
          rw [he]
          refine (run_lockList h hfits e.list _).trans ?_
          rw [hl]
          exact run_work_bind_error (run_lift (congrArg (Except.mapError _) happly))
        exact .of_run (run_updateStatus_error hrun) hanswer h
      | ok both =>
        obtain ⟨e', l'⟩ := both
        simp only [happly] at hanswer
        obtain ⟨-, code, hset, rfl⟩ := StatusEntry.apply_eq_ok happly
        obtain ⟨-, data, data', -, -, rfl⟩ := StatusList.setStatus_eq_ok hset
        have hbits := stores_setBits h (hm.storesList hl) (Bitstring.encode data') stamp.now
        have hstatus := stores_setStatus hbits
          (hm.findEntry_eq_some_iff.mp he).1 code stamp.now
        have hrun : (changeStatus u stamp.now).run.run Server.answer ⟨t, none⟩ =
            (.ok (.updated (entryWith e code stamp.now)),
              ⟨(t.setBits l.id.uuid (Bitstring.encode data') stamp.now.instant).setStatus e.id.uuid
                (.ofNat code.toNat) stamp.now.instant, none⟩) := by
          refine (run_changeStatus_begin h hm hfits u _).trans ?_
          rw [he]
          refine (run_lockList h hfits e.list _).trans ?_
          rw [hl]
          refine (run_work_bind_ok (run_lift (congrArg (Except.mapError _) happly))).trans ?_
          exact run_statusWrites t l.id.uuid e.id.uuid (Bitstring.encode data')
            (.ofNat code.toNat) stamp.now.instant _
        exact .of_run (run_updateStatus_ok hrun) hanswer hstatus

/-! ## Every operation -/

/-- The rows of a consistent store answer as the store does, and hold what it holds after it. -/
theorem session_agrees (h : t.Stores m) (hm : m.Consistent) (hfits : m.FitsColumns)
    {q : StoreRequest} (hfresh : m.Fresh stamp.fresh q) (hq : q.FitsColumns) :
    Agrees t m stamp q := by
  cases q with
  | createList r => exact agrees_createList h r hfresh
  | findList list => exact agrees_findList h hfits list
  | findAvailable issuer purpose width =>
    exact agrees_findAvailable h hm hfits issuer purpose width
  | updateList l => exact agrees_updateList h hm hfits l hq
  | createEntry r => exact agrees_createEntry h hm hfits r hfresh
  | findEntry credential purpose => exact agrees_findEntry h hm hfits credential purpose
  | updateStatus u => exact agrees_updateStatus h hm hfits u

/-- **Both stores agree**: a store that any sequence of operations leads to, and that fits the
columns of a database, has rows that hold it, and whatever rows hold it, a database with those rows
answers every operation as the store does, and holds what the store holds after it. -/
theorem stores_agree (hm : m.Reachable) (hfits : m.FitsColumns) :
    (∃ t : Tables, t.Stores m) ∧
      ∀ t : Tables, t.Stores m → ∀ stamp q, m.Fresh stamp.fresh q → q.FitsColumns →
        Agrees t m stamp q :=
  ⟨hm.consistent.exists_stores hfits, fun _ h _ _ hfresh hq =>
    session_agrees h hm.consistent hfits hfresh hq⟩

end Operations

theorem sample_fitsColumns : Memory.Sample.store.FitsColumns := by
  have hlist : Memory.Sample.withList.FitsColumns :=
    answer_fitsColumns empty_consistent empty_fitsColumns rfl trivial
  have hmade : Memory.Sample.withList.Consistent :=
    answer_consistent empty_consistent (empty_lists _)
  exact answer_fitsColumns hmade hlist rfl trivial

/-- The rows of the sample store agree with it when the code of its entry becomes 1 and when its
list is given a lifetime. -/
theorem sample_stores_agree : ∃ t : Tables, t.Stores Memory.Sample.store ∧
    Agrees t Memory.Sample.store (Memory.Sample.stamp 3)
      (.updateStatus ⟨Memory.Sample.credential, 1, .revocation, none⟩) ∧
    Agrees t Memory.Sample.store (Memory.Sample.stamp 3)
      (.updateList { Memory.Sample.list with ttl := some 60000 }) := by
  obtain ⟨⟨t, h⟩, hagrees⟩ := stores_agree Memory.Sample.reachable sample_fitsColumns
  refine ⟨t, h, hagrees t h _ _ trivial trivial, hagrees t h _ _ trivial ⟨?_, rfl⟩⟩
  rintro n ⟨⟩
  decide

end Database

end StatusRegistry

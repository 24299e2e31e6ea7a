import StatusRegistry.Proofs.StatusList
import StatusRegistry.Store.Memory

/-!
# What an operation does to the tables

The tables of a store in memory after each operation, told once and for all: every later property
of a step is read off `Change`.

* `answer_change`: an operation leaves the tables as they are, or makes the one change of its kind;
* `Memory.Reachable`: the stores that any sequence of operations leads to from the empty one.  A
  UUID that is drawn for a record is not yet the key of one.
-/

set_option autoImplicit false

namespace StatusRegistry

namespace Memory

/-- A list stands in the store under its identifier. -/
def StoresList (m : Memory) (l : StatusList) : Prop := m.lists[l.id]? = some l

/-- An entry stands in the store under its identifier. -/
def StoresEntry (m : Memory) (e : StatusEntry) : Prop := m.entries[e.id]? = some e

theorem StoresList.unique {m : Memory} {l l' : StatusList} (hl : m.StoresList l)
    (hl' : m.StoresList l') (hid : l.id = l'.id) : l = l' := by
  unfold StoresList at hl hl'
  rw [hid, hl'] at hl
  exact (Option.some.inj hl).symm

theorem StoresEntry.unique {m : Memory} {e e' : StatusEntry} (he : m.StoresEntry e)
    (he' : m.StoresEntry e') (hid : e.id = e'.id) : e = e' := by
  unfold StoresEntry at he he'
  rw [hid, he'] at he
  exact (Option.some.inj he).symm

/-! ## Tables -/

@[simp] theorem putList_lists_self (m : Memory) (l : StatusList) :
    (m.putList l).lists[l.id]? = some l := by
  simp [putList]

theorem putList_lists_of_ne {l : StatusList} {id : ListId} (h : l.id ≠ id) (m : Memory) :
    (m.putList l).lists[id]? = m.lists[id]? := by
  simp [putList, Std.HashMap.getElem?_insert, h]

@[simp] theorem putList_entries (m : Memory) (l : StatusList) :
    (m.putList l).entries = m.entries := rfl

@[simp] theorem putList_byCredential (m : Memory) (l : StatusList) :
    (m.putList l).byCredential = m.byCredential := rfl

@[simp] theorem putEntry_entries_self (m : Memory) (e : StatusEntry) :
    (m.putEntry e).entries[e.id]? = some e := by
  simp [putEntry]

theorem putEntry_entries_of_ne {e : StatusEntry} {id : EntryId} (h : e.id ≠ id) (m : Memory) :
    (m.putEntry e).entries[id]? = m.entries[id]? := by
  simp [putEntry, Std.HashMap.getElem?_insert, h]

theorem index_byCredential_self (m : Memory) (e : StatusEntry) :
    (m.index e).byCredential[(e.credential, e.purpose)]? = some e.id := by
  simp [index]

theorem index_byCredential_of_ne {e : StatusEntry} {key : CredentialId × Purpose}
    (h : (e.credential, e.purpose) ≠ key) (m : Memory) :
    (m.index e).byCredential[key]? = m.byCredential[key]? := by
  simp [index, Std.HashMap.getElem?_insert, h]

theorem storesList_putList {m : Memory} {l l' : StatusList} :
    (m.putList l).StoresList l' ↔ l' = l ∨ l'.id ≠ l.id ∧ m.StoresList l' := by
  unfold StoresList
  by_cases h : l.id = l'.id
  · rw [← h, putList_lists_self]
    simp [eq_comm]
  · rw [putList_lists_of_ne h]
    constructor
    · intro hl
      exact .inr ⟨Ne.symm h, hl⟩
    · rintro (rfl | ⟨-, hl⟩)
      · exact absurd rfl h
      · exact hl

theorem storesEntry_putEntry {m : Memory} {e e' : StatusEntry} :
    (m.putEntry e).StoresEntry e' ↔ e' = e ∨ e'.id ≠ e.id ∧ m.StoresEntry e' := by
  unfold StoresEntry
  by_cases h : e.id = e'.id
  · rw [← h, putEntry_entries_self]
    simp [eq_comm]
  · rw [putEntry_entries_of_ne h]
    constructor
    · intro he
      exact .inr ⟨Ne.symm h, he⟩
    · rintro (rfl | ⟨-, he⟩)
      · exact absurd rfl h
      · exact he

@[simp] theorem empty_lists (id : ListId) : empty.lists[id]? = none := by simp [empty]

@[simp] theorem empty_entries (id : EntryId) : empty.entries[id]? = none := by simp [empty]

@[simp] theorem empty_byCredential (key : CredentialId × Purpose) :
    empty.byCredential[key]? = none := by
  simp [empty]

/-! ## Changes -/

/-- A list with the settings of another. -/
def withSettings (stored l : StatusList) : StatusList :=
  { stored with ttl := l.ttl, metadata := l.metadata, updatedAt := l.updatedAt }

/-- The entry that a request is given in a list. -/
def entryIn (l : StatusList) (r : EntryRequest) (stamp : Stamp) : StatusEntry :=
  .create { r with index := l.used } ⟨stamp.fresh⟩ stamp.now

/-- The store with an entry in the next slot of a list. -/
def allotted (m : Memory) (l : StatusList) (r : EntryRequest) (stamp : Stamp) : Memory :=
  ((m.putList (l.withSlotTaken stamp.now)).index (entryIn l r stamp)).putEntry (entryIn l r stamp)

/-- When a request is given the next slot of a list. -/
structure Allots (m : Memory) (l : StatusList) (r : EntryRequest) : Prop where
  list_eq : m.lists[r.list]? = some l
  purpose_eq : l.purpose = r.purpose
  width_eq : l.width = r.width
  used_lt : l.used < l.capacity
  index_le : r.index ≤ l.used
  unassigned : m.byCredential[(r.credential, r.purpose)]? = none

/-- The entry with another code. -/
def entryWith (e : StatusEntry) (code : UInt8) (now : Timestamp) : StatusEntry :=
  { e with status := code, updatedAt := now }

/-- The store with a code in an entry and in its list. -/
def marked (m : Memory) (e : StatusEntry) (l : StatusList) (code : UInt8) : Memory :=
  (m.putList l).putEntry (entryWith e code l.updatedAt)

/-- What an operation may make of a store. -/
inductive Change (m : Memory) (stamp : Stamp) : StoreRequest → Memory → Prop
  | none (q : StoreRequest) : Change m stamp q m
  | list {r : ListRequest} {l : StatusList}
      (made : StatusList.create r ⟨stamp.fresh⟩ stamp.now = .ok l) :
      Change m stamp (.createList r) (m.putList l)
  | settings {l stored : StatusList} (found : m.lists[l.id]? = some stored) :
      Change m stamp (.updateList l)
        { m with lists := m.lists.insert l.id (withSettings stored l) }
  | entry {r : EntryRequest} {l : StatusList} (allots : Allots m l r) :
      Change m stamp (.createEntry r) (m.allotted l r stamp)
  | status {u : StatusUpdate} {e : StatusEntry} {l l' : StatusList} {code : UInt8}
      (found : m.findEntry u.credential u.purpose = some e) (list : m.lists[e.list]? = some l)
      (set : l.setStatus e.index u.status stamp.now = .ok (code, l')) :
      Change m stamp (.updateStatus u) (m.marked e l' code)

/-! ## Operations -/

theorem checkAllocation_eq_ok_iff {l : StatusList} {r : EntryRequest} :
    checkAllocation l r = .ok () ↔
      l.purpose = r.purpose ∧ l.width = r.width ∧ l.used < l.capacity ∧ r.index ≤ l.used := by
  unfold checkAllocation
  split
  · rename_i h
    simp only [reduceCtorEq, false_iff]
    rintro ⟨hpurpose, hwidth, -⟩
    rcases h with h | h
    · exact h hpurpose
    · exact h hwidth
  · rename_i h
    rw [not_or, not_not, not_not] at h
    split
    · rename_i hroom
      simp only [reduceCtorEq, false_iff]
      rintro ⟨-, -, hlt, -⟩
      rw [StatusList.hasRoom_iff.mpr hlt] at hroom
      cases hroom
    · rename_i hroom
      have hlt : l.used < l.capacity := by
        rw [Bool.not_eq_true, Bool.not_eq_false'] at hroom
        exact StatusList.hasRoom_iff.mp hroom
      split
      · rename_i hindex
        simp only [reduceCtorEq, false_iff]
        rintro ⟨-, -, -, hle⟩
        exact UInt64.not_lt.mpr hle hindex
      · rename_i hindex
        simp only [true_iff]
        exact ⟨h.1, h.2, hlt, UInt64.not_lt.mp hindex⟩

theorem allocate_eq_ok_iff {l l' : StatusList} {r : EntryRequest} {stamp : Stamp}
    {e : StatusEntry} :
    allocate l r stamp = .ok (e, l') ↔
      checkAllocation l r = .ok () ∧ e = entryIn l r stamp ∧ l' = l.withSlotTaken stamp.now := by
  constructor
  · intro h
    unfold allocate at h
    split at h
    · cases h
    · rename_i hcheck
      rw [StatusList.takeSlot_eq (checkAllocation_eq_ok_iff.mp hcheck).2.2.1] at h
      cases h
      exact ⟨hcheck, rfl, rfl⟩
  · rintro ⟨hcheck, rfl, rfl⟩
    unfold allocate
    rw [hcheck]
    simp only [StatusList.takeSlot_eq (checkAllocation_eq_ok_iff.mp hcheck).2.2.1]
    rfl

/-- An entry is planned iff its list can hand out a slot and its credential has none. -/
theorem planEntry_eq_ok_iff {m : Memory} {r : EntryRequest} {stamp : Stamp} {e : StatusEntry}
    {l' : StatusList} :
    m.planEntry r stamp = .ok (e, l') ↔
      ∃ l, Allots m l r ∧ e = entryIn l r stamp ∧ l' = l.withSlotTaken stamp.now := by
  constructor
  · intro h
    unfold planEntry at h
    split at h
    · cases h
    · rename_i l hl
      split at h
      · cases h
      · rename_i e₀ l₀ hallocate
        obtain ⟨hcheck, rfl, rfl⟩ := allocate_eq_ok_iff.mp hallocate
        obtain ⟨hpurpose, hwidth, hlt, hindex⟩ := checkAllocation_eq_ok_iff.mp hcheck
        split at h
        · cases h
        · rename_i hnew
          cases h
          exact ⟨l, ⟨hl, hpurpose, hwidth, hlt, hindex, by simpa using hnew⟩, rfl, rfl⟩
  · rintro ⟨l, hallots, rfl, rfl⟩
    have hallocate : allocate l r stamp = .ok (entryIn l r stamp, l.withSlotTaken stamp.now) :=
      allocate_eq_ok_iff.mpr ⟨checkAllocation_eq_ok_iff.mpr ⟨hallots.purpose_eq, hallots.width_eq,
        hallots.used_lt, hallots.index_le⟩, rfl, rfl⟩
    have hnew : m.byCredential.contains (r.credential, r.purpose) = false := by
      have := hallots.unassigned
      simpa using this
    unfold planEntry
    rw [hallots.list_eq]
    simp only [hallocate, hnew, Bool.false_eq_true, if_false]

/-- A request that is given a slot is granted. -/
theorem createEntry_of_allots {m : Memory} {l : StatusList} {r : EntryRequest}
    (h : Allots m l r) (stamp : Stamp) :
    m.answer stamp (.createEntry r) = (.ok (entryIn l r stamp), m.allotted l r stamp) := by
  have hplan := planEntry_eq_ok_iff.mpr ⟨l, h, rfl, (rfl : _ = l.withSlotTaken stamp.now)⟩
  show m.createEntry r stamp = _
  unfold createEntry
  rw [hplan]
  rfl

/-- **What an operation can do**: leave the store as it is, or make the change of its kind. -/
theorem answer_change (m : Memory) (stamp : Stamp) (q : StoreRequest) :
    Change m stamp q (m.answer stamp q).2 := by
  cases q with
  | createList r =>
    show Change m stamp _ (m.createList r stamp).2
    unfold createList
    split
    · exact .none _
    · rename_i l hl
      exact .list hl
  | findList list => exact .none _
  | findAvailable issuer purpose width => exact .none _
  | updateList l =>
    show Change m stamp _ (m.updateList l).2
    unfold updateList
    split
    · exact .none _
    · rename_i stored hstored
      exact .settings hstored
  | createEntry r =>
    show Change m stamp _ (m.createEntry r stamp).2
    unfold createEntry
    split
    · exact .none _
    · rename_i e l' hplan
      obtain ⟨l, hallots, rfl, rfl⟩ := planEntry_eq_ok_iff.mp hplan
      exact .entry hallots
  | findEntry credential purpose => exact .none _
  | updateStatus u =>
    show Change m stamp _ (m.updateStatus u stamp.now).2
    unfold updateStatus
    split
    · exact .none _
    · rename_i e he
      split
      · exact .none _
      · rename_i l hl
        split
        · exact .none _
        · rename_i e' l' happly
          obtain ⟨-, code, hset, rfl⟩ := StatusEntry.apply_eq_ok happly
          exact .status he hl hset

/-! ## Runs -/

/-- A UUID that is drawn for a record is not yet the key of one. -/
def Fresh (m : Memory) (fresh : Uuid) : StoreRequest → Prop
  | .createList _ => m.lists[(⟨fresh⟩ : ListId)]? = none
  | .createEntry _ => m.entries[(⟨fresh⟩ : EntryId)]? = none
  | _ => True

/-- The stores that a sequence of operations leads to from another one. -/
inductive Leads (m : Memory) : Memory → Prop
  | refl : Leads m m
  | step {m' : Memory} (stamp : Stamp) (q : StoreRequest) (leads : Leads m m')
      (fresh : m'.Fresh stamp.fresh q) : Leads m (m'.answer stamp q).2

/-- The stores that a sequence of operations leads to from the empty one. -/
def Reachable (m : Memory) : Prop := Leads empty m

theorem Leads.trans {m m' m'' : Memory} (h : Leads m m') (h' : Leads m' m'') : Leads m m'' := by
  induction h' with
  | refl => exact h
  | step stamp q _ fresh ih => exact .step stamp q ih fresh

end Memory

end StatusRegistry

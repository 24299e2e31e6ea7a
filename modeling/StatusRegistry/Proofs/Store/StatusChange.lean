import StatusRegistry.Proofs.Store.Consistency
import StatusRegistry.Proofs.Wording

/-!
# What a change of a status comes to

When a change is made, what it writes, and what each refusal says.

* `updateStatus_noEntry`, `updateStatus_refused`, `updateStatus_written`: the three outcomes, and
  `Consistent.written_of_success`: the only one of them that is a success;
* `reachable_updateStatus`: which of them it is, and what is left as it was.
-/

set_option autoImplicit false

namespace StatusRegistry

namespace Memory

/-- The entry that a credential has for a purpose, and the list of the entry. -/
structure Assigned (m : Memory) (credential : CredentialId) (purpose : Purpose) (e : StatusEntry)
    (l : StatusList) : Prop where
  entry : m.StoresEntry e
  credential_eq : e.credential = credential
  purpose_eq : e.purpose = purpose
  list : m.StoresList l
  list_eq : e.list = l.id

/-- The code and the time are written into an entry, the code into its slot and the time into its
list, and nothing else is. -/
structure StatusWritten (m m' : Memory) (e e' : StatusEntry) (l l' : StatusList) (status : UInt32)
    (now : Timestamp) : Prop where
  entry_eq : e' = { e with status := e'.status, updatedAt := now }
  list_eq : l' = { l with encodedList := l'.encodedList, updatedAt := now }
  status_eq : e'.status.toNat = status.toNat
  slots : ∃ data data', Bitstring.decode l.encodedList = .ok data ∧
    Bitstring.decode l'.encodedList = .ok data' ∧ data'.size = data.size ∧
    Bitstring.readSlot data' e.index.toNat l.width = .ok e'.status ∧
    ∀ index, index ≠ e.index.toNat →
      Bitstring.readSlot data' index l.width = Bitstring.readSlot data index l.width
  entry_stored : m'.StoresEntry e'
  list_stored : m'.StoresList l'
  entries_eq : ∀ id, id ≠ e.id → m'.entries[id]? = m.entries[id]?
  lists_eq : ∀ id, id ≠ l.id → m'.lists[id]? = m.lists[id]?
  byCredential_eq : m'.byCredential = m.byCredential

section Outcomes

variable {m : Memory} {u : StatusUpdate} {e : StatusEntry} {l : StatusList}

/-! ## The outcomes -/

theorem Consistent.assigned (h : m.Consistent) (he : m.StoresEntry e) :
    ∃ l, m.Assigned e.credential e.purpose e l := by
  obtain ⟨l, -, hl, hlist, -, -⟩ := h.list_of_entry he
  exact ⟨l, he, rfl, rfl, hl, hlist⟩

/-- An entry has one list. -/
theorem Consistent.assigned_unique (h : m.Consistent) (ha : m.Assigned u.credential u.purpose e l)
    {e₀ : StatusEntry} {l₀ : StatusList} (ha₀ : m.Assigned u.credential u.purpose e₀ l₀) :
    e₀ = e ∧ l₀ = l := by
  have heq : e₀ = e := h.entry_unique ha₀.entry ha.entry
    (ha₀.credential_eq.trans ha.credential_eq.symm) (ha₀.purpose_eq.trans ha.purpose_eq.symm)
  exact ⟨heq, ha₀.list.unique ha.list (by rw [← ha₀.list_eq, heq, ha.list_eq])⟩

/-- What is found for a change, if its credential has an entry. -/
theorem Consistent.found (h : m.Consistent) (ha : m.Assigned u.credential u.purpose e l) :
    m.findEntry u.credential u.purpose = some e ∧ m.lists[e.list]? = some l := by
  refine ⟨h.findEntry_eq_some_iff.mpr ⟨ha.entry, ha.credential_eq, ha.purpose_eq⟩, ?_⟩
  rw [ha.list_eq]
  exact ha.list

theorem updateStatus_noEntry (h : m.Consistent)
    (hnone : ¬ ∃ e, m.StoresEntry e ∧ e.credential = u.credential ∧ e.purpose = u.purpose)
    (now : Timestamp) :
    m.updateStatus u now = (.entryNotFound u.credential u.purpose, m) := by
  unfold updateStatus
  rw [h.findEntry_eq_none_iff.mpr hnone]

/-- A code that does not fit is refused. -/
theorem updateStatus_refused (h : m.Consistent) (ha : m.Assigned u.credential u.purpose e l)
    (hcode : ¬ u.status.toNat ≤ l.width.maxCode) (now : Timestamp) :
    e.apply l u.status now =
        .error (.validation (.codeOutOfRange u.status.toNat l.width.bits)) ∧
      m.updateStatus u now =
        (.failed (ListError.validation (.codeOutOfRange u.status.toNat l.width.bits)).message,
          m) := by
  obtain ⟨hentry, hlist⟩ := h.found ha
  have hindex := h.index_lt_capacity ha.entry ha.list ha.list_eq
  have hset : l.setStatus e.index u.status now = _ :=
    StatusList.setStatus_error (fun hfit => hcode hfit.2) now
  rw [if_pos hindex] at hset
  have happly := StatusEntry.apply_error ha.list_eq hset
  refine ⟨happly, ?_⟩
  unfold updateStatus
  simp only [hentry, hlist, happly]

/-- A code that fits is written. -/
theorem updateStatus_written (h : m.Consistent) (ha : m.Assigned u.credential u.purpose e l)
    (hcode : u.status.toNat ≤ l.width.maxCode) (now : Timestamp) :
    ∃ e' l' m', m.updateStatus u now = (.updated e', m') ∧
      StatusWritten m m' e e' l l' u.status now := by
  obtain ⟨hentry, hlist⟩ := h.found ha
  have hsound := h.sound ha.list
  have hindex := h.index_lt_capacity ha.entry ha.list ha.list_eq
  obtain ⟨code, l', hset, hstored⟩ := StatusList.setStatus_ok hsound hindex hcode now
  obtain ⟨data, hdata⟩ := hsound.readable
  obtain ⟨data', hdata', hslot⟩ := hstored.bitstring data hdata
  have hle' : l'.capacity ≤ maxCapacity := (hstored.sound hsound).le_maxCapacity
  have hnow : l'.updatedAt = now := by rw [hstored.list_eq]; rfl
  refine ⟨entryWith e code l'.updatedAt, l', m.marked e l' code, ?_, ?_⟩
  · unfold updateStatus
    simp only [hentry, hlist, StatusEntry.apply_ok ha.list_eq hset]
    rfl
  · constructor
    · rw [hnow]
      rfl
    · exact hstored.list_eq
    · exact hstored.code_eq
    · exact ⟨data, data', hdata.decode_eq hsound.le_maxCapacity, hdata'.decode_eq hle',
        hslot.size_eq, hslot.read_self, hslot.read_other⟩
    · exact storesEntry_marked.mpr (.inl rfl)
    · exact putList_lists_self m l'
    · intro id hid
      exact putEntry_entries_of_ne (e := entryWith e code l'.updatedAt) (Ne.symm hid) _
    · intro id hid
      rw [← hstored.same.id_eq] at hid
      exact putList_lists_of_ne (Ne.symm hid) m
    · rfl

/-- A change that is made is one of a code that fits, to an entry that is there. -/
theorem Consistent.written_of_success (h : m.Consistent) {now : Timestamp}
    (hsuccess : (m.updateStatus u now).1.success = true) :
    ∃ e l, m.Assigned u.credential u.purpose e l ∧ u.status.toNat ≤ l.width.maxCode ∧
      ∃ e' l', (m.updateStatus u now).1 = .updated e' ∧
        StatusWritten m (m.updateStatus u now).2 e e' l l' u.status now := by
  by_cases hentry : ∃ e, m.StoresEntry e ∧ e.credential = u.credential ∧ e.purpose = u.purpose
  · obtain ⟨e, he, hcredential, hpurpose⟩ := hentry
    obtain ⟨l, hl⟩ := h.assigned he
    have ha : m.Assigned u.credential u.purpose e l :=
      ⟨he, hcredential, hpurpose, hl.list, hl.list_eq⟩
    by_cases hcode : u.status.toNat ≤ l.width.maxCode
    · obtain ⟨e', l', m', heq, hwritten⟩ := updateStatus_written h ha hcode now
      rw [heq]
      exact ⟨e, l, ha, hcode, e', l', rfl, hwritten⟩
    · rw [(updateStatus_refused h ha hcode now).2] at hsuccess
      cases hsuccess
  · rw [updateStatus_noEntry h hentry now] at hsuccess
    cases hsuccess

end Outcomes

/-! ## Every change -/

/-- What the outcome of a change and the store after it say of the store before it. -/
structure ChangeTold (m : Memory) (u : StatusUpdate) (now : Timestamp) (r : UpdateResult)
    (m' : Memory) : Prop where
  /-- A change is made iff the credential has an entry and the code fits its list. -/
  success_iff : r.success = true ↔
    ∃ e l, m.Assigned u.credential u.purpose e l ∧ u.status.toNat ≤ 2 ^ l.width.bits - 1
  /-- The reason says that something was not found iff the credential has no entry. -/
  isNotFound_iff : r.isNotFound = true ↔
    ¬ ∃ e, m.StoresEntry e ∧ e.credential = u.credential ∧ e.purpose = u.purpose
  /-- A refusal leaves the store as it is, for one of two reasons. -/
  refused : r.success = false → m' = m ∧
    (r = .entryNotFound u.credential u.purpose ∨
      ∃ e l, m.Assigned u.credential u.purpose e l ∧
        e.apply l u.status now =
          .error (.validation (.codeOutOfRange u.status.toNat l.width.bits)) ∧
        r = .failed
          (ListError.validation (.codeOutOfRange u.status.toNat l.width.bits)).message)
  /-- A change that is made returns the entry as it is stored. -/
  written : r.success = true → ∃ e e' l l', m.Assigned u.credential u.purpose e l ∧
    r = .updated e' ∧ StatusWritten m m' e e' l l' u.status now

/-- **In every store that a sequence of operations leads to, a change of a status is made iff its
credential has an entry and its code fits; it writes what it should, and a refusal writes
nothing.** -/
theorem reachable_updateStatus {m : Memory} (hm : m.Reachable) (u : StatusUpdate)
    (now : Timestamp) :
    m.ChangeTold u now (m.updateStatus u now).1 (m.updateStatus u now).2 := by
  have h := hm.consistent
  by_cases hentry : ∃ e, m.StoresEntry e ∧ e.credential = u.credential ∧ e.purpose = u.purpose
  · obtain ⟨e, he, hcredential, hpurpose⟩ := hentry
    obtain ⟨l, hl⟩ := h.assigned he
    have ha : m.Assigned u.credential u.purpose e l :=
      ⟨he, hcredential, hpurpose, hl.list, hl.list_eq⟩
    by_cases hcode : u.status.toNat ≤ l.width.maxCode
    · obtain ⟨e', l', m', heq, hwritten⟩ := updateStatus_written h ha hcode now
      rw [heq]
      constructor
      · exact iff_of_true rfl ⟨e, l, ha, hcode⟩
      · exact iff_of_false Bool.false_ne_true fun hnone => hnone ⟨e, he, hcredential, hpurpose⟩
      · intro hfailed
        cases hfailed
      · intro _
        exact ⟨e, e', l, l', ha, rfl, hwritten⟩
    · obtain ⟨happly, heq⟩ := updateStatus_refused h ha hcode now
      rw [heq]
      constructor
      · refine iff_of_false Bool.false_ne_true ?_
        rintro ⟨e₀, l₀, ha₀, hcode₀⟩
        obtain ⟨-, rfl⟩ := h.assigned_unique ha ha₀
        exact hcode hcode₀
      · exact iff_of_false (UpdateResult.silent_codeOutOfRange _ _).not_tells
          fun hnone => hnone ⟨e, he, hcredential, hpurpose⟩
      · intro _
        exact ⟨rfl, .inr ⟨e, l, ha, happly, rfl⟩⟩
      · intro hsuccess
        cases hsuccess
  · rw [updateStatus_noEntry h hentry now]
    constructor
    · refine iff_of_false Bool.false_ne_true ?_
      rintro ⟨e, l, ha, -⟩
      exact hentry ⟨e, ha.entry, ha.credential_eq, ha.purpose_eq⟩
    · exact iff_of_true (UpdateResult.isNotFound_entryNotFound _ _) hentry
    · intro _
      exact ⟨rfl, .inl rfl⟩
    · intro hsuccess
      cases hsuccess

theorem Sample.assigned : Sample.store.Assigned Sample.credential .revocation Sample.entry
    (Sample.list.withSlotTaken ⟨.epoch⟩) := by
  refine ⟨Sample.storesEntry, rfl, rfl, ?_, rfl⟩
  rw [Sample.store_eq]
  exact storesList_putList.mpr (.inl rfl)

/-- In the sample store, with slots of one bit, a change to code 1 is made and one to code 2 is
refused. -/
theorem sample_updateStatus :
    (Sample.store.updateStatus ⟨Sample.credential, 1, .revocation, none⟩ ⟨.epoch⟩).1.success =
        true ∧
      (Sample.store.updateStatus ⟨Sample.credential, 2, .revocation, none⟩ ⟨.epoch⟩).1.success =
        false := by
  constructor
  · apply (reachable_updateStatus Sample.reachable _ _).success_iff.mpr
    exact ⟨_, _, Sample.assigned, by decide⟩
  · rw [← Bool.not_eq_true, (reachable_updateStatus Sample.reachable _ _).success_iff]
    rintro ⟨e, l, ha, hcode⟩
    obtain ⟨-, rfl⟩ := Sample.reachable.consistent.assigned_unique
      (u := ⟨Sample.credential, 2, .revocation, none⟩) Sample.assigned ha
    exact absurd hcode (by decide)

end Memory

end StatusRegistry

import StatusRegistry.Proofs.Store.History

/-!
# What no operation can undo

A store in memory only grows.  Records stay once they are there, with everything that is fixed when
they are made, the count of used slots only rises, and a slot that was handed out is never handed
out again.  New settings of a list, even of a copy that is long out of date, reach nothing but the
settings, and an operation that fails reaches nothing at all.

* `failed_unchanged`, `updateList_course`: what a failure and new settings leave alone;
* `Consistent.createEntry_slot_new`: an entry is given a slot that no entry holds;
* `reachable_records_permanent`: all of it, for every store that operations lead to.
-/

set_option autoImplicit false

namespace StatusRegistry

/-- The operation was not carried out. -/
def StoreRequest.Failed : (q : StoreRequest) → q.Answer → Prop
  | .createList _, answer => ∃ err, answer = .error err
  | .findList _, answer => ∃ err, answer = .error err
  | .findAvailable _ _ _, answer => ∃ err, answer = .error err
  | .updateList _, answer => ∃ err, answer = .error err
  | .createEntry _, answer => ∃ err, answer = .error err
  | .findEntry _ _, answer => ∃ err, answer = .error err
  | .updateStatus _, result => result.success = false

namespace Memory

variable {m : Memory}

/-! ## Failures -/

theorem createList_failed {r : ListRequest} {stamp : Stamp} {err : StoreError}
    (h : (m.createList r stamp).1 = .error err) : (m.createList r stamp).2 = m := by
  unfold createList at h ⊢
  split
  · rfl
  · rename_i l hmade
    rw [hmade] at h
    cases h

theorem updateList_failed {l : StatusList} {err : StoreError}
    (h : (m.updateList l).1 = .error err) : (m.updateList l).2 = m := by
  unfold updateList at h ⊢
  split
  · rfl
  · rename_i stored hstored
    rw [hstored] at h
    cases h

theorem updateStatus_failed {u : StatusUpdate} {now : Timestamp}
    (h : (m.updateStatus u now).1.success = false) : (m.updateStatus u now).2 = m := by
  cases hfind : m.findEntry u.credential u.purpose with
  | none =>
    unfold updateStatus
    rw [hfind]
  | some e =>
    cases hlist : m.lists[e.list]? with
    | none =>
      unfold updateStatus
      simp only [hfind, hlist]
    | some l =>
      cases happly : e.apply l u.status now with
      | error err =>
        unfold updateStatus
        simp only [hfind, hlist, happly]
      | ok changed =>
        unfold updateStatus at h
        simp only [hfind, hlist, happly] at h
        cases h

/-- **An operation that fails leaves the store as it is.** -/
theorem failed_unchanged {stamp : Stamp} {q : StoreRequest} (h : q.Failed (m.answer stamp q).1) :
    (m.answer stamp q).2 = m := by
  cases q with
  | createList r =>
    obtain ⟨err, herr⟩ := h
    exact createList_failed herr
  | findList list => rfl
  | findAvailable issuer purpose width => rfl
  | updateList l =>
    obtain ⟨err, herr⟩ := h
    exact updateList_failed herr
  | createEntry r =>
    obtain ⟨err, herr⟩ := h
    exact createEntry_answer_error herr
  | findEntry credential purpose => rfl
  | updateStatus u => exact updateStatus_failed h

/-! ## Settings -/

/-- New settings reach the settings of the one list, whatever else the list that they come with
says. -/
structure SettingsOnly (m : Memory) (l l' : StatusList) (m' : Memory) : Prop where
  list_eq : ∃ stored, m.lists[l.id]? = some stored ∧
    l' = { stored with ttl := l.ttl, metadata := l.metadata, updatedAt := l.updatedAt }
  stored : m'.lists[l.id]? = some l'
  lists_eq : ∀ id, id ≠ l.id → m'.lists[id]? = m.lists[id]?
  entries_eq : m'.entries = m.entries
  byCredential_eq : m'.byCredential = m.byCredential

theorem updateList_course {l l' : StatusList} (h : (m.updateList l).1 = .ok l') :
    SettingsOnly m l l' (m.updateList l).2 := by
  cases hfound : m.lists[l.id]? with
  | none =>
    unfold updateList at h
    rw [hfound] at h
    cases h
  | some stored =>
    have heq : m.updateList l = (.ok (withSettings stored l),
        { m with lists := m.lists.insert l.id (withSettings stored l) }) := by
      unfold updateList
      rw [hfound]
      rfl
    rw [heq] at h ⊢
    cases h
    refine ⟨⟨stored, hfound, rfl⟩, ?_, ?_, rfl, rfl⟩
    · exact Std.HashMap.getElem?_insert_self
    · intro id hid
      simp [Std.HashMap.getElem?_insert, Ne.symm hid]

/-! ## Slots -/

/-- An entry is given a slot that no entry holds. -/
theorem Consistent.createEntry_slot_new (h : m.Consistent) {r : EntryRequest} {stamp : Stamp}
    {e : StatusEntry} (hmade : (m.createEntry r stamp).1 = .ok e) {o : StatusEntry}
    (ho : m.StoresEntry o) : (o.list, o.index) ≠ (e.list, e.index) := by
  obtain ⟨l, hallots, rfl, -⟩ := createEntry_answer hmade
  intro hslot
  obtain ⟨hlist, hindex⟩ := Prod.mk.inj hslot
  have hid : o.list = l.id := hlist.trans (h.list_id hallots.list_eq).symm
  have hlt := (h.accounted (h.storesList hallots.list_eq)).index_lt ho hid
  rw [hindex] at hlt
  exact UInt64.lt_irrefl _ hlt

/-- An entry that was made is stored from then on. -/
theorem createEntry_stored {r : EntryRequest} {stamp : Stamp}
    (hfresh : m.Fresh stamp.fresh (.createEntry r)) {e : StatusEntry}
    (hmade : (m.createEntry r stamp).1 = .ok e) : (m.createEntry r stamp).2.StoresEntry e := by
  obtain ⟨l, -, rfl, hm⟩ := createEntry_answer hmade
  show (m.answer stamp (.createEntry r)).2.StoresEntry _
  rw [hm]
  exact (storesEntry_allotted hfresh).mpr (.inl rfl)

/-! ## Every operation -/

/-- What no operation on a store can undo. -/
structure RecordsPermanent (m : Memory) : Prop where
  /-- A list stays, with everything that is fixed, and its used slots stay used. -/
  list_kept : ∀ stamp q, m.Fresh stamp.fresh q → ∀ (id : ListId) (l : StatusList),
    m.lists[id]? = some l → ∃ l', (m.answer stamp q).2.lists[id]? = some l' ∧ l.used ≤ l'.used ∧
      l' = { l with
        used := l'.used, encodedList := l'.encodedList, ttl := l'.ttl, metadata := l'.metadata,
        updatedAt := l'.updatedAt }
  /-- An entry stays, with everything but its code and the time of its last change. -/
  entry_kept : ∀ stamp q, m.Fresh stamp.fresh q → ∀ (id : EntryId) (e : StatusEntry),
    m.entries[id]? = some e → ∃ e', (m.answer stamp q).2.entries[id]? = some e' ∧
      e' = { e with status := e'.status, updatedAt := e'.updatedAt }
  /-- A slot that is handed out is held by no entry, and it is not handed out again later. -/
  slot_once : ∀ stamp r, m.Fresh stamp.fresh (.createEntry r) → ∀ e : StatusEntry,
    (m.createEntry r stamp).1 = .ok e →
      (∀ (id : EntryId) (o : StatusEntry), m.entries[id]? = some o →
        (o.list, o.index) ≠ (e.list, e.index)) ∧
      ∀ m', (m.createEntry r stamp).2.Leads m' → ∀ stamp' r' (e' : StatusEntry),
        (m'.createEntry r' stamp').1 = .ok e' → (e.list, e.index) ≠ (e'.list, e'.index)
  /-- New settings reach the settings of one list and nothing else. -/
  settings_only : ∀ l l' : StatusList, (m.updateList l).1 = .ok l' →
    SettingsOnly m l l' (m.updateList l).2
  /-- An operation that fails changes nothing. -/
  failed_unchanged : ∀ stamp (q : StoreRequest), q.Failed (m.answer stamp q).1 →
    (m.answer stamp q).2 = m

/-- **No operation undoes anything, in every store that a sequence of operations leads to.** -/
theorem reachable_records_permanent {m : Memory} (hm : m.Reachable) : m.RecordsPermanent := by
  have h := hm.consistent
  constructor
  · intro stamp q hfresh id l hl
    obtain rfl := h.list_id hl
    obtain ⟨l', hl', hsame, hused⟩ := (answer_extends h hfresh).list hl
    refine ⟨l', ?_, hused, ?_⟩
    · rw [← hsame.id_eq]
      exact hl'
    · rw [← hsame.id_eq, ← hsame.issuer_eq, ← hsame.purpose_eq, ← hsame.width_eq,
        ← hsame.capacity_eq, ← hsame.createdAt_eq]
  · intro stamp q hfresh id e he
    obtain rfl := h.entry_id he
    obtain ⟨e', he', hsame⟩ := (answer_extends h hfresh).entry he
    refine ⟨e', ?_, ?_⟩
    · rw [← hsame.id_eq]
      exact he'
    · rw [← hsame.id_eq, ← hsame.credential_eq, ← hsame.list_eq, ← hsame.index_eq,
        ← hsame.width_eq, ← hsame.purpose_eq, ← hsame.createdAt_eq]
  · intro stamp r hfresh e hmade
    refine ⟨fun id o ho => h.createEntry_slot_new hmade (h.storesEntry ho), ?_⟩
    intro m' hleads stamp' r' e' hmade'
    have h' : (m.createEntry r stamp).2.Consistent :=
      answer_consistent (q := .createEntry r) h hfresh
    -- the entry is still there, and the later one gets a slot that no entry holds
    obtain ⟨o, ho, hsame⟩ := (hleads.extends h').entry (createEntry_stored hfresh hmade)
    have hnew := (hleads.consistent h').createEntry_slot_new hmade' ho
    rwa [hsame.list_eq, hsame.index_eq] at hnew
  · exact fun l l' => updateList_course
  · exact fun stamp q => failed_unchanged

/-- The sample store takes new settings from a copy of its list that is as it was made, without any
used slot; the slot that was used since stays used. -/
theorem sample_stale_settings :
    ∃ l, (Sample.store.updateList { Sample.list with ttl := some 60000 }).2.lists[Sample.list.id]? =
      some l ∧ l.ttl = some 60000 ∧ l.used = 1 := by
  have hstored : Sample.store.lists[Sample.list.id]? =
      some (Sample.list.withSlotTaken ⟨.epoch⟩) := by
    rw [Sample.store_eq]
    exact putList_lists_self _ _
  have hanswer : (Sample.store.updateList { Sample.list with ttl := some 60000 }).1 =
      .ok (withSettings (Sample.list.withSlotTaken ⟨.epoch⟩)
        { Sample.list with ttl := some 60000 }) := by
    unfold updateList
    rw [hstored]
    rfl
  have hsettings := (reachable_records_permanent Sample.reachable).settings_only _ _ hanswer
  exact ⟨_, hsettings.stored, rfl, rfl⟩

end Memory

end StatusRegistry

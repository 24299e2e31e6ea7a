import StatusRegistry.Proofs.Store.Tables

/-!
# The tables of a store agree

What ties lists, entries and the table of credentials together, and that every operation restores
it: a slot is used iff one entry holds it, and the bitstring of a list says for each slot what its
entry says, and 0 for a slot without one.

* `Accounted`: what the entries of one list are to its slots;
* `Consistent`: the invariant, with `Accounted` for every stored list;
* `answer_consistent`: an operation keeps the invariant, one lemma for each kind of change;
* `Unnamed.answer`: it makes no record under another name than the one it is given;
* `reachable_tables_agree`: what holds of every store that a sequence of operations leads to.
-/

set_option autoImplicit false

namespace StatusRegistry

namespace Memory

/-- The entries of a list hold its used slots, one each, and say what its bitstring says. -/
structure Accounted (m : Memory) (l : StatusList) : Prop where
  index_lt : ∀ {e}, m.StoresEntry e → e.list = l.id → e.index < l.used
  held : ∀ {index}, index < l.used → ∃ e, m.StoresEntry e ∧ e.list = l.id ∧ e.index = index
  unique : ∀ {e e' : StatusEntry}, m.StoresEntry e → m.StoresEntry e' → e.list = l.id →
    e'.list = l.id → e.index = e'.index → e = e'
  status_eq : ∀ {e data}, m.StoresEntry e → e.list = l.id → l.Holds data →
    Bitstring.readSlot data e.index.toNat l.width = .ok e.status
  blank : ∀ {data index}, l.Holds data → index < Bitstring.slotCount data.size l.width →
    (∀ e, m.StoresEntry e → e.list = l.id → e.index.toNat ≠ index) →
      Bitstring.readSlot data index l.width = .ok 0

/-- The tables of a store agree. -/
structure Consistent (m : Memory) : Prop where
  list_id : ∀ {id} {l : StatusList}, m.lists[id]? = some l → l.id = id
  entry_id : ∀ {id} {e : StatusEntry}, m.entries[id]? = some e → e.id = id
  sound : ∀ {l}, m.StoresList l → l.Sound
  accounted : ∀ {l}, m.StoresList l → m.Accounted l
  entry_list : ∀ {e}, m.StoresEntry e →
    ∃ l, m.lists[e.list]? = some l ∧ l.purpose = e.purpose ∧ l.width = e.width
  byCredential_iff : ∀ {credential purpose id},
    m.byCredential[(credential, purpose)]? = some id ↔
      ∃ e, m.StoresEntry e ∧ e.id = id ∧ e.credential = credential ∧ e.purpose = purpose

/-! ## Reading a consistent store -/

theorem Consistent.storesList {m : Memory} (h : m.Consistent) {id : ListId} {l : StatusList}
    (hl : m.lists[id]? = some l) : m.StoresList l := by
  unfold StoresList
  rw [h.list_id hl]
  exact hl

theorem Consistent.storesEntry {m : Memory} (h : m.Consistent) {id : EntryId} {e : StatusEntry}
    (he : m.entries[id]? = some e) : m.StoresEntry e := by
  unfold StoresEntry
  rw [h.entry_id he]
  exact he

/-- The list of an entry. -/
theorem Consistent.list_of_entry {m : Memory} (h : m.Consistent) {e : StatusEntry}
    (he : m.StoresEntry e) :
    ∃ l, m.lists[e.list]? = some l ∧ m.StoresList l ∧ e.list = l.id ∧ l.purpose = e.purpose ∧
      l.width = e.width := by
  obtain ⟨l, hl, hpurpose, hwidth⟩ := h.entry_list he
  exact ⟨l, hl, h.storesList hl, (h.list_id hl).symm, hpurpose, hwidth⟩

/-- The slot of an entry lies in its list. -/
theorem Consistent.index_lt_capacity {m : Memory} (h : m.Consistent) {e : StatusEntry}
    (he : m.StoresEntry e) {l : StatusList} (hl : m.StoresList l) (hlist : e.list = l.id) :
    e.index < l.capacity :=
  UInt64.lt_of_lt_of_le ((h.accounted hl).index_lt he hlist) (h.sound hl).used_le

/-- The entry of a credential for a purpose is found iff it is stored. -/
theorem Consistent.findEntry_eq_some_iff {m : Memory} (h : m.Consistent)
    {credential : CredentialId} {purpose : Purpose} {e : StatusEntry} :
    m.findEntry credential purpose = some e ↔
      m.StoresEntry e ∧ e.credential = credential ∧ e.purpose = purpose := by
  unfold findEntry
  constructor
  · intro hfind
    split at hfind
    · rename_i id hid
      obtain ⟨e', he', rfl, hcredential, hpurpose⟩ := h.byCredential_iff.mp hid
      rw [he'] at hfind
      cases hfind
      exact ⟨he', hcredential, hpurpose⟩
    · cases hfind
  · rintro ⟨he, hcredential, hpurpose⟩
    rw [h.byCredential_iff.mpr ⟨e, he, rfl, hcredential, hpurpose⟩]
    exact he

theorem Consistent.findEntry_eq_none_iff {m : Memory} (h : m.Consistent)
    {credential : CredentialId} {purpose : Purpose} :
    m.findEntry credential purpose = none ↔
      ¬ ∃ e, m.StoresEntry e ∧ e.credential = credential ∧ e.purpose = purpose := by
  rw [Option.eq_none_iff_forall_not_mem]
  simp only [Option.mem_def, h.findEntry_eq_some_iff, not_exists]

/-- A credential has no entry for a purpose iff the store has no identifier of one. -/
theorem Consistent.findEntry_eq_none_iff_key {m : Memory} (h : m.Consistent)
    {credential : CredentialId} {purpose : Purpose} :
    m.findEntry credential purpose = none ↔ m.byCredential[(credential, purpose)]? = none := by
  unfold findEntry
  cases hkey : m.byCredential[(credential, purpose)]? with
  | none => simp
  | some id =>
    obtain ⟨e, he, rfl, -⟩ := h.byCredential_iff.mp hkey
    simp [show m.entries[e.id]? = some e from he]

/-- A credential has one entry for a purpose. -/
theorem Consistent.entry_unique {m : Memory} (h : m.Consistent) {e e' : StatusEntry}
    (he : m.StoresEntry e) (he' : m.StoresEntry e') (hcredential : e.credential = e'.credential)
    (hpurpose : e.purpose = e'.purpose) : e = e' := by
  have hfound := h.findEntry_eq_some_iff.mpr ⟨he, hcredential, hpurpose⟩
  rw [h.findEntry_eq_some_iff.mpr ⟨he', rfl, rfl⟩] at hfound
  cases hfound
  rfl

/-- One slot of one list is held by one entry. -/
theorem Consistent.slot_unique {m : Memory} (h : m.Consistent) {e e' : StatusEntry}
    (he : m.StoresEntry e) (he' : m.StoresEntry e') (hlist : e.list = e'.list)
    (hindex : e.index = e'.index) : e = e' := by
  obtain ⟨l, -, hl, hid, -, -⟩ := h.list_of_entry he
  exact (h.accounted hl).unique he he' hid (hlist.symm.trans hid) hindex

/-! ## Slots under a change elsewhere -/

/-- A list is accounted for by its own entries, whatever else the store holds. -/
theorem Accounted.of_same {m m' : Memory} {l l' : StatusList} (h : m.Accounted l)
    (hentries : ∀ e, e.list = l.id → (m'.StoresEntry e ↔ m.StoresEntry e)) (hid : l'.id = l.id)
    (hused : l'.used = l.used) (hwidth : l'.width = l.width)
    (hholds : ∀ data, l'.Holds data ↔ l.Holds data) : m'.Accounted l' := by
  constructor
  · intro e he hlist
    rw [hid] at hlist
    rw [hused]
    exact h.index_lt ((hentries e hlist).mp he) hlist
  · intro index hindex
    rw [hused] at hindex
    obtain ⟨e, he, hlist, heq⟩ := h.held hindex
    exact ⟨e, (hentries e hlist).mpr he, hlist.trans hid.symm, heq⟩
  · intro e e' he he' hlist hlist' heq
    rw [hid] at hlist hlist'
    exact h.unique ((hentries e hlist).mp he) ((hentries e' hlist').mp he') hlist hlist' heq
  · intro e data he hlist hdata
    rw [hid] at hlist
    rw [hwidth]
    exact h.status_eq ((hentries e hlist).mp he) hlist ((hholds data).mp hdata)
  · intro data index hdata hindex hfree
    rw [hwidth] at hindex ⊢
    apply h.blank ((hholds data).mp hdata) hindex
    intro e he hlist
    exact hfree e ((hentries e hlist).mpr he) (hlist.trans hid.symm)

/-! ## A new list -/

/-- A list without used slots, and of which no entry speaks, is accounted for by no entries. -/
theorem accounted_of_unused {m : Memory} {l : StatusList} (hl : l.Sound) (hused : l.used = 0)
    (hholds : l.Holds (Bitstring.zeroed l.capacity l.width))
    (hother : ∀ e, m.StoresEntry e → e.list ≠ l.id) : m.Accounted l := by
  constructor
  · intro e he hlist
    exact absurd hlist (hother e he)
  · intro index hindex
    rw [hused] at hindex
    exact absurd hindex (UInt64.not_lt.mpr UInt64.zero_le)
  · intro e e' he _ hlist
    exact absurd hlist (hother e he)
  · intro e data he hlist
    exact absurd hlist (hother e he)
  · intro data index hdata hindex _
    rw [hdata.unique hholds hl.le_maxCapacity] at hindex ⊢
    rw [Bitstring.size_zeroed] at hindex
    exact Bitstring.readSlot_zeroed hindex

theorem Consistent.putList_id {m : Memory} (h : m.Consistent) {l' : StatusList} {id : ListId}
    {l : StatusList} (hl : (m.putList l').lists[id]? = some l) : l.id = id := by
  by_cases hid : l'.id = id
  · rw [← hid, putList_lists_self] at hl
    cases hl
    exact hid
  · rw [putList_lists_of_ne hid] at hl
    exact h.list_id hl

theorem Consistent.putList {m : Memory} (h : m.Consistent) {r : ListRequest} {l : StatusList}
    {id : ListId} {now : Timestamp} (hmade : StatusList.create r id now = .ok l)
    (hfresh : m.lists[id]? = none) : (m.putList l).Consistent := by
  obtain ⟨hsound, rfl, hused, hholds⟩ := StatusList.create_sound hmade
  -- no entry speaks of the new list, as each speaks of a stored one
  have hother : ∀ e, m.StoresEntry e → e.list ≠ l.id := by
    intro e he heq
    obtain ⟨l₀, hl₀, -⟩ := h.entry_list he
    rw [heq, hfresh] at hl₀
    cases hl₀
  constructor
  · exact h.putList_id
  · exact h.entry_id
  · intro l' hl'
    rcases storesList_putList.mp hl' with rfl | ⟨-, hl'⟩
    · exact hsound
    · exact h.sound hl'
  · intro l' hl'
    rcases storesList_putList.mp hl' with rfl | ⟨-, hl'⟩
    · exact accounted_of_unused hsound hused hholds hother
    · exact (h.accounted hl').of_same (fun _ _ => Iff.rfl) rfl rfl rfl fun _ => Iff.rfl
  · intro e he
    obtain ⟨l', hl', hagree⟩ := h.entry_list he
    exact ⟨l', by rw [putList_lists_of_ne (Ne.symm (hother e he))]; exact hl', hagree⟩
  · exact h.byCredential_iff

/-! ## A stored list with other contents -/

/-- An entry still speaks of a list of its purpose and width after the list was replaced. -/
theorem entry_list_of_same {m : Memory} {l l' : StatusList} (hl : m.StoresList l)
    (h : l.Same l') {e : StatusEntry}
    (he : ∃ l₀, m.lists[e.list]? = some l₀ ∧ l₀.purpose = e.purpose ∧ l₀.width = e.width) :
    ∃ l₀, (m.putList l').lists[e.list]? = some l₀ ∧ l₀.purpose = e.purpose ∧
      l₀.width = e.width := by
  obtain ⟨l₀, hl₀, hpurpose, hwidth⟩ := he
  by_cases hid : l'.id = e.list
  · have hsame : l = l₀ := by
      rw [← hid, h.id_eq, hl] at hl₀
      exact Option.some.inj hl₀
    subst hsame
    refine ⟨l', by rw [← hid, putList_lists_self], ?_, ?_⟩
    · rw [h.purpose_eq, hpurpose]
    · rw [h.width_eq, hwidth]
  · exact ⟨l₀, by rw [putList_lists_of_ne hid]; exact hl₀, hpurpose, hwidth⟩

theorem same_withSettings (stored l : StatusList) :
    stored.Same (Memory.withSettings stored l) := ⟨rfl, rfl, rfl, rfl, rfl, rfl⟩

theorem settings_eq_putList {m : Memory} (h : m.Consistent) {l stored : StatusList}
    (hstored : m.lists[l.id]? = some stored) :
    { m with lists := m.lists.insert l.id (Memory.withSettings stored l) } =
      m.putList (Memory.withSettings stored l) := by
  rw [← h.list_id hstored]
  rfl

/-- Other settings of a list do not touch what the tables agree on. -/
theorem Consistent.withSettings {m : Memory} (h : m.Consistent) {stored : StatusList}
    (hstored : m.StoresList stored) (l : StatusList) :
    (m.putList (Memory.withSettings stored l)).Consistent := by
  have hholds : ∀ data, (Memory.withSettings stored l).Holds data ↔ stored.Holds data :=
    fun data => ⟨fun hd => ⟨hd.text_eq, hd.size_eq⟩, fun hd => ⟨hd.text_eq, hd.size_eq⟩⟩
  constructor
  · exact h.putList_id
  · exact h.entry_id
  · intro l' hl'
    rcases storesList_putList.mp hl' with rfl | ⟨-, hl'⟩
    · have hsound := h.sound hstored
      obtain ⟨data, hdata⟩ := hsound.readable
      exact ⟨hsound.minCapacity_le, hsound.le_maxCapacity, hsound.used_le, data,
        (hholds data).mpr hdata⟩
    · exact h.sound hl'
  · intro l' hl'
    rcases storesList_putList.mp hl' with rfl | ⟨-, hl'⟩
    · exact (h.accounted hstored).of_same (fun _ _ => Iff.rfl) rfl rfl rfl hholds
    · exact (h.accounted hl').of_same (fun _ _ => Iff.rfl) rfl rfl rfl fun _ => Iff.rfl
  · intro e he
    exact entry_list_of_same hstored (same_withSettings stored l) (h.entry_list he)
  · exact h.byCredential_iff

/-! ## A new entry -/

/-- The entries of a store after one more was made. -/
theorem storesEntry_allotted {m : Memory} {l : StatusList} {r : EntryRequest} {stamp : Stamp}
    (hfresh : m.entries[(⟨stamp.fresh⟩ : EntryId)]? = none) {e : StatusEntry} :
    (m.allotted l r stamp).StoresEntry e ↔ e = entryIn l r stamp ∨ m.StoresEntry e := by
  unfold allotted
  rw [storesEntry_putEntry]
  constructor
  · rintro (rfl | ⟨-, he⟩)
    · exact .inl rfl
    · exact .inr he
  · rintro (rfl | he)
    · exact .inl rfl
    · refine .inr ⟨?_, he⟩
      intro hid
      unfold StoresEntry at he
      rw [hid] at he
      have hnone : m.entries[(entryIn l r stamp).id]? = none := hfresh
      rw [hnone] at he
      cases he

/-- A list is accounted for with one more slot, which the new entry holds. -/
theorem Accounted.allotted {m : Memory} {l : StatusList} (h : m.Accounted l) (hl : l.Sound)
    {r : EntryRequest} {stamp : Stamp} (hid : l.id = r.list) (hroom : l.used < l.capacity)
    (hfresh : m.entries[(⟨stamp.fresh⟩ : EntryId)]? = none) :
    (m.allotted l r stamp).Accounted (l.withSlotTaken stamp.now) := by
  have hstores := fun e => storesEntry_allotted (l := l) (r := r) hfresh (e := e)
  have hnext : ∀ {index : UInt64}, index < l.used + 1 ↔ index = l.used ∨ index < l.used := by
    intro index
    rw [UInt64.lt_iff_toNat_lt, UInt64.lt_iff_toNat_lt, StatusList.toNat_used_succ hroom,
      ← UInt64.toNat_inj]
    omega
  constructor
  · intro e he hlist
    rcases (hstores e).mp he with rfl | he
    · exact hnext.mpr (.inl rfl)
    · exact hnext.mpr (.inr (h.index_lt he hlist))
  · intro index hindex
    rcases hnext.mp hindex with rfl | hindex
    · exact ⟨_, (hstores _).mpr (.inl rfl), hid.symm, rfl⟩
    · obtain ⟨e, he, hlist, heq⟩ := h.held hindex
      exact ⟨e, (hstores e).mpr (.inr he), hlist, heq⟩
  · intro e e' he he' hlist hlist' heq
    rcases (hstores e).mp he with rfl | he
    · rcases (hstores e').mp he' with rfl | he'
      · rfl
      · have hlt := h.index_lt he' hlist'
        rw [← heq] at hlt
        exact absurd hlt (UInt64.lt_irrefl l.used)
    · rcases (hstores e').mp he' with rfl | he'
      · have hlt := h.index_lt he hlist
        rw [heq] at hlt
        exact absurd hlt (UInt64.lt_irrefl l.used)
      · exact h.unique he he' hlist hlist' heq
  · intro e data he hlist hdata
    have hold : l.Holds data := ⟨hdata.text_eq, hdata.size_eq⟩
    rcases (hstores e).mp he with rfl | he
    · -- the slot was blank before, as no entry held it
      apply h.blank hold (hold.lt_slotCount hl.le_maxCapacity hroom)
      intro e he hlist heq
      have hlt := UInt64.lt_iff_toNat_lt.mp (h.index_lt he hlist)
      exact Nat.ne_of_lt hlt heq
    · exact h.status_eq he hlist hold
  · intro data index hdata hindex hfree
    apply h.blank ⟨hdata.text_eq, hdata.size_eq⟩ hindex
    intro e he hlist
    exact hfree e ((hstores e).mpr (.inr he)) hlist

/-- The table of credentials after an entry was made. -/
theorem Consistent.byCredential_allotted {m : Memory} (h : m.Consistent) {l : StatusList}
    {r : EntryRequest} {stamp : Stamp} (hallots : Allots m l r)
    (hfresh : m.entries[(⟨stamp.fresh⟩ : EntryId)]? = none) {credential : CredentialId}
    {purpose : Purpose} {id : EntryId} :
    (m.allotted l r stamp).byCredential[(credential, purpose)]? = some id ↔
      ∃ e, (m.allotted l r stamp).StoresEntry e ∧ e.id = id ∧ e.credential = credential ∧
        e.purpose = purpose := by
  have hstores := fun e => storesEntry_allotted (l := l) (r := r) hfresh (e := e)
  show ((m.putList (l.withSlotTaken stamp.now)).index (entryIn l r stamp)).byCredential[
    (credential, purpose)]? = some id ↔ _
  by_cases hkey : ((entryIn l r stamp).credential, (entryIn l r stamp).purpose) =
      (credential, purpose)
  · rw [← hkey, index_byCredential_self]
    simp only [Prod.mk.injEq] at hkey
    obtain ⟨rfl, rfl⟩ := hkey
    constructor
    · intro hsome
      cases hsome
      exact ⟨_, (hstores _).mpr (.inl rfl), rfl, rfl, rfl⟩
    · rintro ⟨e, he, rfl, hcredential, hpurpose⟩
      rcases (hstores e).mp he with rfl | he
      · rfl
      · have hfound := h.byCredential_iff.mpr ⟨e, he, rfl, hcredential, hpurpose⟩
        have hnone : m.byCredential[((entryIn l r stamp).credential,
          (entryIn l r stamp).purpose)]? = none := hallots.unassigned
        rw [hnone] at hfound
        cases hfound
  · rw [index_byCredential_of_ne hkey, putList_byCredential, h.byCredential_iff]
    constructor
    · rintro ⟨e, he, hrest⟩
      exact ⟨e, (hstores e).mpr (.inr he), hrest⟩
    · rintro ⟨e, he, rfl, hcredential, hpurpose⟩
      rcases (hstores e).mp he with rfl | he
      · exact absurd (Prod.ext hcredential hpurpose) hkey
      · exact ⟨e, he, rfl, hcredential, hpurpose⟩

theorem Consistent.allotted {m : Memory} (h : m.Consistent) {l : StatusList} {r : EntryRequest}
    {stamp : Stamp} (hallots : Allots m l r)
    (hfresh : m.entries[(⟨stamp.fresh⟩ : EntryId)]? = none) :
    (m.allotted l r stamp).Consistent := by
  have hl : m.StoresList l := h.storesList hallots.list_eq
  have hid : l.id = r.list := h.list_id hallots.list_eq
  have hstores := fun e => storesEntry_allotted (l := l) (r := r) hfresh (e := e)
  constructor
  · exact h.putList_id
  · intro id e he
    by_cases hid : (entryIn l r stamp).id = id
    · subst hid
      rw [Memory.allotted, putEntry_entries_self] at he
      cases he
      rfl
    · rw [Memory.allotted, putEntry_entries_of_ne hid] at he
      exact h.entry_id he
  · intro l' hl'
    rcases storesList_putList.mp hl' with rfl | ⟨-, hl'⟩
    · exact (h.sound hl).withSlotTaken hallots.used_lt _
    · exact h.sound hl'
  · intro l' hl'
    rcases storesList_putList.mp hl' with rfl | ⟨hne, hl'⟩
    · exact (h.accounted hl).allotted (h.sound hl) hid hallots.used_lt hfresh
    · apply (h.accounted hl').of_same _ rfl rfl rfl fun _ => Iff.rfl
      intro e hlist
      rw [hstores e]
      constructor
      · rintro (rfl | he)
        · exact absurd (hlist.symm.trans hid.symm) hne
        · exact he
      · exact .inr
  · intro e he
    rcases (hstores e).mp he with rfl | he
    · refine ⟨l.withSlotTaken stamp.now, ?_, hallots.purpose_eq, hallots.width_eq⟩
      show (m.putList (l.withSlotTaken stamp.now)).lists[r.list]? = _
      rw [← hid]
      exact putList_lists_self m (l.withSlotTaken stamp.now)
    · exact entry_list_of_same hl (l.same_withSlotTaken _) (h.entry_list he)
  · exact h.byCredential_allotted hallots hfresh

/-! ## Another code -/

theorem same_entryWith (e : StatusEntry) (code : UInt8) (now : Timestamp) :
    e.Same (entryWith e code now) := ⟨rfl, rfl, rfl, rfl, rfl, rfl, rfl⟩

/-- The entries of a store after the code of one was changed. -/
theorem storesEntry_marked {m : Memory} {e₀ e : StatusEntry} {l : StatusList} {code : UInt8} :
    (m.marked e₀ l code).StoresEntry e ↔
      e = entryWith e₀ code l.updatedAt ∨ e.id ≠ e₀.id ∧ m.StoresEntry e :=
  storesEntry_putEntry

/-- Each entry was there before, and only its code may have been another. -/
theorem same_of_marked {m : Memory} {e₀ e : StatusEntry} {l : StatusList} {code : UInt8}
    (he₀ : m.StoresEntry e₀) (he : (m.marked e₀ l code).StoresEntry e) :
    ∃ o, m.StoresEntry o ∧ o.Same e := by
  rcases storesEntry_marked.mp he with rfl | ⟨-, he⟩
  · exact ⟨e₀, he₀, same_entryWith e₀ _ _⟩
  · exact ⟨e, he, .refl e⟩

/-- Each entry is still there, and only its code may be another. -/
theorem marked_of_same {m : Memory} {e₀ o : StatusEntry} (l : StatusList) (code : UInt8)
    (he₀ : m.StoresEntry e₀) (ho : m.StoresEntry o) :
    ∃ e, (m.marked e₀ l code).StoresEntry e ∧ o.Same e := by
  by_cases hid : o.id = e₀.id
  · have heq : o = e₀ := ho.unique he₀ hid
    exact ⟨_, storesEntry_marked.mpr (.inl rfl), heq ▸ same_entryWith e₀ _ _⟩
  · exact ⟨o, storesEntry_marked.mpr (.inr ⟨hid, ho⟩), .refl o⟩

/-- A list is accounted for with another code in the slot of one of its entries. -/
theorem Accounted.marked {m : Memory} {l l' : StatusList} (h : m.Accounted l) (hl : l.Sound)
    {e₀ : StatusEntry} (he₀ : m.StoresEntry e₀) (hlist₀ : e₀.list = l.id) {status : UInt32}
    {code : UInt8} {now : Timestamp} (hstored : l.Stored l' e₀.index status code now) :
    (m.marked e₀ l' code).Accounted l' := by
  have hsame := hstored.same
  have hid : ∀ {list : ListId}, list = l'.id → list = l.id := fun hlist => hlist.trans hsame.id_eq
  obtain ⟨data, hdata⟩ := hl.readable
  obtain ⟨data', hdata', hset⟩ := hstored.bitstring data hdata
  have hunique : ∀ {found}, l'.Holds found → found = data' :=
    fun hfound => hfound.unique hdata' (hstored.sound hl).le_maxCapacity
  constructor
  · intro e he hlist
    obtain ⟨o, ho, hoe⟩ := same_of_marked he₀ he
    rw [hstored.used_eq, hoe.index_eq]
    exact h.index_lt ho (hoe.list_eq ▸ hid hlist)
  · intro index hindex
    rw [hstored.used_eq] at hindex
    obtain ⟨o, ho, hlist, heq⟩ := h.held hindex
    obtain ⟨e, he, hoe⟩ := marked_of_same l' code he₀ ho
    exact ⟨e, he, by rw [hoe.list_eq, hlist, hsame.id_eq], hoe.index_eq.trans heq⟩
  · intro e e' he he' hlist hlist' heq
    obtain ⟨o, ho, hoe⟩ := same_of_marked he₀ he
    obtain ⟨o', ho', hoe'⟩ := same_of_marked he₀ he'
    have hoo : o = o' := h.unique ho ho' (hoe.list_eq ▸ hid hlist) (hoe'.list_eq ▸ hid hlist')
      (by rw [← hoe.index_eq, ← hoe'.index_eq, heq])
    exact he.unique he' (by rw [hoe'.id_eq, ← hoo, hoe.id_eq])
  · intro e found he hlist hfound
    rw [hunique hfound, hsame.width_eq]
    rcases storesEntry_marked.mp he with rfl | ⟨hne, he⟩
    · exact hset.read_self
    · rw [hset.read_other]
      · exact h.status_eq he (hid hlist) hdata
      · -- another entry of the list holds another slot
        intro hindex
        have heq := h.unique he he₀ (hid hlist) hlist₀ (UInt64.toNat_inj.mp hindex)
        exact hne (by rw [heq])
  · intro found index hfound hindex hfree
    rw [hunique hfound, hsame.width_eq] at hindex ⊢
    rw [hset.size_eq] at hindex
    rw [hset.read_other]
    · apply h.blank hdata hindex
      intro o ho hlist heq
      obtain ⟨e, he, hoe⟩ := marked_of_same l' code he₀ ho
      exact hfree e he (by rw [hoe.list_eq, hlist, hsame.id_eq]) (by rw [hoe.index_eq, heq])
    · intro heq
      exact hfree _ (storesEntry_marked.mpr (.inl rfl)) (hlist₀.trans hsame.id_eq.symm) heq.symm

theorem Consistent.marked {m : Memory} (h : m.Consistent) {l l' : StatusList}
    {e₀ : StatusEntry} (he₀ : m.StoresEntry e₀) (hl : m.StoresList l) (hlist₀ : e₀.list = l.id)
    {status : UInt32} {code : UInt8} {now : Timestamp}
    (hstored : l.Stored l' e₀.index status code now) : (m.marked e₀ l' code).Consistent := by
  have hsame := hstored.same
  constructor
  · exact h.putList_id
  · intro id e he
    by_cases hid : (entryWith e₀ code l'.updatedAt).id = id
    · subst hid
      rw [Memory.marked, putEntry_entries_self] at he
      cases he
      rfl
    · rw [Memory.marked, putEntry_entries_of_ne hid] at he
      exact h.entry_id he
  · intro l₁ hl₁
    rcases storesList_putList.mp hl₁ with rfl | ⟨-, hl₁⟩
    · exact hstored.sound (h.sound hl)
    · exact h.sound hl₁
  · intro l₁ hl₁
    rcases storesList_putList.mp hl₁ with rfl | ⟨hne, hl₁⟩
    · exact (h.accounted hl).marked (h.sound hl) he₀ hlist₀ hstored
    · apply (h.accounted hl₁).of_same _ rfl rfl rfl fun _ => Iff.rfl
      intro e hlist
      rw [storesEntry_marked]
      constructor
      · rintro (rfl | ⟨-, he⟩)
        · exact absurd (hlist.symm.trans (hlist₀.trans hsame.id_eq.symm)) hne
        · exact he
      · intro he
        refine .inr ⟨?_, he⟩
        intro hid
        rw [he.unique he₀ hid] at hlist
        exact hne (hlist.symm.trans (hlist₀.trans hsame.id_eq.symm))
  · intro e he
    obtain ⟨o, ho, hoe⟩ := same_of_marked he₀ he
    obtain ⟨l₀, hl₀, hpurpose, hwidth⟩ := h.entry_list ho
    apply entry_list_of_same hl hsame
    rw [hoe.list_eq, hoe.purpose_eq, hoe.width_eq]
    exact ⟨l₀, hl₀, hpurpose, hwidth⟩
  · intro credential purpose id
    show m.byCredential[(credential, purpose)]? = some id ↔ _
    rw [h.byCredential_iff]
    constructor
    · rintro ⟨o, ho, rfl, rfl, rfl⟩
      obtain ⟨e, he, hoe⟩ := marked_of_same l' code he₀ ho
      exact ⟨e, he, hoe.id_eq, hoe.credential_eq, hoe.purpose_eq⟩
    · rintro ⟨e, he, rfl, rfl, rfl⟩
      obtain ⟨o, ho, hoe⟩ := same_of_marked he₀ he
      exact ⟨o, ho, hoe.id_eq.symm, hoe.credential_eq.symm, hoe.purpose_eq.symm⟩

/-! ## Every operation -/

theorem empty_consistent : empty.Consistent := by
  constructor
  · intro id l hl
    simp at hl
  · intro id e he
    simp at he
  · intro l hl
    simp [StoresList] at hl
  · intro l hl
    simp [StoresList] at hl
  · intro e he
    simp [StoresEntry] at he
  · intro credential purpose id
    simp [StoresEntry]

/-- **Every operation keeps the tables in agreement.** -/
theorem answer_consistent {m : Memory} (h : m.Consistent) {stamp : Stamp} {q : StoreRequest}
    (hfresh : m.Fresh stamp.fresh q) : (m.answer stamp q).2.Consistent := by
  have hchange := answer_change m stamp q
  generalize (m.answer stamp q).2 = m' at hchange ⊢
  cases hchange with
  | none => exact h
  | list made => exact h.putList made hfresh
  | settings found =>
    rename_i l stored
    rw [settings_eq_putList h found]
    exact h.withSettings (h.storesList found) l
  | entry allots => exact h.allotted allots hfresh
  | status found list set =>
    obtain ⟨he, -, -⟩ := h.findEntry_eq_some_iff.mp found
    have hl := h.storesList list
    exact h.marked he hl (h.list_id list).symm (StatusList.stored_of_setStatus (h.sound hl) set)

theorem Leads.consistent {m m' : Memory} (h : m.Consistent) (hleads : Leads m m') :
    m'.Consistent := by
  induction hleads with
  | refl => exact h
  | step stamp q _ fresh ih => exact answer_consistent ih fresh

theorem Reachable.consistent {m : Memory} (h : m.Reachable) : m.Consistent :=
  Leads.consistent empty_consistent h

/-! ## Names -/

/-- A UUID that is the key of no record. -/
structure Unnamed (m : Memory) (name : Uuid) : Prop where
  lists : m.lists[(⟨name⟩ : ListId)]? = none
  entries : m.entries[(⟨name⟩ : EntryId)]? = none

theorem Unnamed.fresh {m : Memory} {name : Uuid} (h : m.Unnamed name) (q : StoreRequest) :
    m.Fresh name q := by
  cases q with
  | createList r => exact h.lists
  | createEntry r => exact h.entries
  | _ => trivial

theorem Unnamed.list_ne {m : Memory} {name : Uuid} (h : m.Unnamed name) {l : StatusList}
    (hl : m.StoresList l) : l.id ≠ ⟨name⟩ := by
  intro heq
  rw [StoresList, heq, h.lists] at hl
  cases hl

theorem Unnamed.entry_ne {m : Memory} {name : Uuid} (h : m.Unnamed name) {e : StatusEntry}
    (he : m.StoresEntry e) : e.id ≠ ⟨name⟩ := by
  intro heq
  rw [StoresEntry, heq, h.entries] at he
  cases he

/-- **An operation makes no record under another name than the one it is given.** -/
theorem Unnamed.answer {m : Memory} {name : Uuid} (h : m.Unnamed name) (hm : m.Consistent)
    {stamp : Stamp} (hother : stamp.fresh ≠ name) (q : StoreRequest) :
    (m.answer stamp q).2.Unnamed name := by
  have hchange := answer_change m stamp q
  generalize (m.answer stamp q).2 = m' at hchange ⊢
  cases hchange with
  | none => exact h
  | list made =>
    obtain ⟨-, hid, -, -⟩ := StatusList.create_sound made
    refine ⟨?_, h.entries⟩
    rw [putList_lists_of_ne, h.lists]
    rw [hid]
    exact fun heq => hother (ListId.mk.inj heq)
  | settings found =>
    rename_i l stored
    have hne := h.list_ne (hm.storesList found)
    change (withSettings stored l).id ≠ ⟨name⟩ at hne
    rw [settings_eq_putList hm found]
    exact ⟨(putList_lists_of_ne hne m).trans h.lists, h.entries⟩
  | entry allots =>
    rename_i r l
    have hlist := h.list_ne (hm.storesList allots.list_eq)
    change (l.withSlotTaken stamp.now).id ≠ ⟨name⟩ at hlist
    have hentry : (entryIn l r stamp).id ≠ ⟨name⟩ := fun heq => hother (EntryId.mk.inj heq)
    exact ⟨(putList_lists_of_ne hlist m).trans h.lists,
      (putEntry_entries_of_ne hentry _).trans h.entries⟩
  | status found list set =>
    rename_i u e l l' code
    obtain ⟨he, -, -⟩ := hm.findEntry_eq_some_iff.mp found
    have hl := hm.storesList list
    have hsame := (StatusList.stored_of_setStatus (hm.sound hl) set).same
    have hlist : l'.id ≠ ⟨name⟩ := by
      rw [hsame.id_eq]
      exact h.list_ne hl
    have hentry := h.entry_ne he
    change (entryWith e code l'.updatedAt).id ≠ ⟨name⟩ at hentry
    exact ⟨(putList_lists_of_ne hlist m).trans h.lists,
      (putEntry_entries_of_ne hentry _).trans h.entries⟩

/-! ## What the tables say -/

/-- What lists, entries and the table of credentials of a store say of one another. -/
structure TablesAgree (m : Memory) : Prop where
  /-- A list has no more used slots than slots, and its text stands for as many bytes as these
  take. -/
  list_readable : ∀ (id : ListId) (l : StatusList), m.lists[id]? = some l →
    l.id = id ∧ l.used ≤ l.capacity ∧
      ∃ data, Bitstring.decode l.encodedList = .ok data ∧
        data.size = Bitstring.bufferLength l.capacity l.width
  /-- An entry names a list of its purpose and width. -/
  entry_list : ∀ (id : EntryId) (e : StatusEntry), m.entries[id]? = some e →
    e.id = id ∧ ∃ l, m.lists[e.list]? = some l ∧ l.purpose = e.purpose ∧ l.width = e.width
  /-- The indices of the entries of a list are those below its number of used slots, each once. -/
  slot_held : ∀ (id : ListId) (l : StatusList), m.lists[id]? = some l →
    (∀ (eid : EntryId) (e : StatusEntry), m.entries[eid]? = some e → e.list = id →
      e.index < l.used) ∧
    ∀ index, index < l.used →
      ∃! eid : EntryId, ∃ e : StatusEntry,
        m.entries[eid]? = some e ∧ e.list = id ∧ e.index = index
  /-- The table of credentials names for each credential and purpose the entry of the two. -/
  credential_entry : ∀ (credential : CredentialId) (purpose : Purpose) (eid : EntryId),
    m.byCredential[(credential, purpose)]? = some eid ↔
      ∃ e : StatusEntry, m.entries[eid]? = some e ∧ e.credential = credential ∧
        e.purpose = purpose
  /-- A slot with an entry holds the code of the entry, and any other slot holds 0. -/
  slot_code : ∀ (id : ListId) (l : StatusList) (data : ByteArray), m.lists[id]? = some l →
    Bitstring.decode l.encodedList = .ok data →
      (∀ (eid : EntryId) (e : StatusEntry), m.entries[eid]? = some e → e.list = id →
        Bitstring.readSlot data e.index.toNat l.width = .ok e.status) ∧
      ∀ index, index < Bitstring.slotCount data.size l.width →
        (∀ (eid : EntryId) (e : StatusEntry), m.entries[eid]? = some e → e.list = id →
          e.index.toNat ≠ index) →
        Bitstring.readSlot data index l.width = .ok 0

/-- **In every store that a sequence of operations leads to, the tables agree.** -/
theorem reachable_tables_agree {m : Memory} (hm : m.Reachable) : m.TablesAgree := by
  have h := hm.consistent
  constructor
  · intro id l hl
    have hsound := h.sound (h.storesList hl)
    obtain ⟨data, hdata⟩ := hsound.readable
    exact ⟨h.list_id hl, hsound.used_le, data, hdata.decode_eq hsound.le_maxCapacity,
      hdata.size_eq⟩
  · intro id e he
    exact ⟨h.entry_id he, h.entry_list (h.storesEntry he)⟩
  · intro id l hl
    obtain rfl := h.list_id hl
    have haccounted := h.accounted (h.storesList hl)
    refine ⟨fun eid e he hlist => haccounted.index_lt (h.storesEntry he) hlist, ?_⟩
    intro index hindex
    obtain ⟨e, he, hlist, heq⟩ := haccounted.held hindex
    refine ⟨e.id, ⟨e, he, hlist, heq⟩, ?_⟩
    rintro eid ⟨e', he', hlist', heq'⟩
    rw [← h.entry_id he', haccounted.unique (h.storesEntry he') he hlist' hlist
      (heq'.trans heq.symm)]
  · intro credential purpose eid
    rw [h.byCredential_iff]
    constructor
    · rintro ⟨e, he, rfl, hrest⟩
      exact ⟨e, he, hrest⟩
    · rintro ⟨e, he, hrest⟩
      exact ⟨e, h.storesEntry he, h.entry_id he, hrest⟩
  · intro id l data hl hdecode
    obtain rfl := h.list_id hl
    have hstores := h.storesList hl
    have hdata := (h.sound hstores).holds_of_decode hdecode
    refine ⟨fun eid e he hlist => (h.accounted hstores).status_eq (h.storesEntry he) hlist hdata,
      ?_⟩
    intro index hindex hfree
    exact (h.accounted hstores).blank hdata hindex fun e he hlist => hfree e.id e he hlist

/-! ## A store with one entry -/

namespace Sample

/-- The issuer of the list of the sample store. -/
def issuer : IssuerId := ⟨"did:example:issuer", by decide⟩

/-- The credential that has an entry in the sample store. -/
def credential : CredentialId := ⟨"urn:example:credential", by decide⟩

/-- The time at which everything in the sample store was made, with a UUID for it. -/
def stamp (number : BitVec 128) : Stamp := ⟨⟨.epoch⟩, ⟨number⟩⟩

/-- The list of the sample store when it was made. -/
def list : StatusList :=
  ⟨⟨⟨1⟩⟩, issuer, .revocation, .one, 131072, 0, StatusList.blankText 131072 .one, none, none,
    ⟨.epoch⟩, ⟨.epoch⟩⟩

/-- The request for the entry of the sample store. -/
def request : EntryRequest := ⟨credential, ⟨⟨1⟩⟩, 0, .one, .revocation⟩

/-- The entry of the sample store. -/
def entry : StatusEntry :=
  ⟨⟨⟨2⟩⟩, credential, ⟨⟨1⟩⟩, 0, .one, .revocation, 0, ⟨.epoch⟩, ⟨.epoch⟩⟩

/-- The store that holds one list without entries. -/
def withList : Memory := (empty.answer (stamp 1) (.createList (.simple issuer .revocation))).2

/-- The store that holds one list with one entry. -/
def store : Memory := (withList.answer (stamp 2) (.createEntry request)).2

theorem withList_eq : withList = empty.putList list := rfl

theorem withList_lists : withList.lists[(⟨⟨1⟩⟩ : ListId)]? = some list :=
  putList_lists_self empty list

theorem allots : Allots withList list request := by
  refine ⟨withList_lists, rfl, rfl, by decide, by decide, ?_⟩
  rw [withList_eq, putList_byCredential]
  exact empty_byCredential _

theorem store_eq : store = withList.allotted list request (stamp 2) :=
  congrArg Prod.snd (createEntry_of_allots allots (stamp 2))

theorem leads_withList : empty.Leads withList :=
  .step _ _ .refl (empty_lists _)

theorem leads_store : withList.Leads store := by
  refine .step _ _ .refl ?_
  show withList.entries[_]? = none
  rw [withList_eq, putList_entries]
  exact empty_entries _

theorem reachable : store.Reachable := leads_withList.trans leads_store

/-- Every other UUID is new to the sample store. -/
theorem unnamed {name : Uuid} (hlist : name ≠ ⟨1⟩) (hentry : name ≠ ⟨2⟩) : store.Unnamed name := by
  have hlist' : (⟨⟨1⟩⟩ : ListId) ≠ ⟨name⟩ := fun heq => hlist (ListId.mk.inj heq).symm
  have hentry' : (⟨⟨2⟩⟩ : EntryId) ≠ ⟨name⟩ := fun heq => hentry (EntryId.mk.inj heq).symm
  rw [store_eq, withList_eq]
  constructor
  · exact (putList_lists_of_ne hlist' _).trans
      ((putList_lists_of_ne hlist' _).trans (empty_lists _))
  · exact (putEntry_entries_of_ne hentry' _).trans (empty_entries _)

theorem storesEntry : store.StoresEntry entry := by
  rw [store_eq]
  exact storesEntry_putEntry.mpr (.inl rfl)

end Sample

/-- The tables agree in the sample store after its entry was asked to hold code 1. -/
theorem sample_tables_agree :
    Sample.store.StoresEntry Sample.entry ∧
      (Sample.store.answer (Sample.stamp 3)
        (.updateStatus ⟨Sample.credential, 1, .revocation, none⟩)).2.TablesAgree :=
  ⟨Sample.storesEntry,
    reachable_tables_agree (.step (Sample.stamp 3) _ Sample.reachable trivial)⟩

end Memory

end StatusRegistry

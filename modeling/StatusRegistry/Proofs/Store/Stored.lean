import StatusRegistry.Proofs.Store.Available
import StatusRegistry.Proofs.Store.Columns
import StatusRegistry.Proofs.Store.Server
import StatusRegistry.Store.Database

/-!
# A store in rows

When the rows of a server hold what a store in memory holds, what is read from the rows is what the
store answers, and a row that is written is a record that is put.

* `Holds`: the rows of a table hold the records of a map, one row each;
* `Tables.Stores`: the rows of both tables hold the records of a store;
* `Stores.listOfRow_list?`, `Stores.entryOfRow_entry?`, `Stores.listOfRow_available?`: the reads;
* `Holds.add`, `Holds.change`: the writes;
* `Memory.Consistent.exists_stores`: every store that fits the columns has its rows.
-/

set_option autoImplicit false

namespace StatusRegistry

/-! ## Rows and records -/

/-- Rows hold the records of a map: each row that of its key, and each record in one row. -/
structure Holds {Row Record : Type} (key : Row → Uuid) (writes : Row → Record → Prop)
    (rows : List Row) (record : Uuid → Option Record) : Prop where
  nodup : (rows.map key).Nodup
  sound : ∀ r ∈ rows, ∃ x, record (key r) = some x ∧ writes r x
  complete : ∀ {id x}, record id = some x → ∃ r ∈ rows, key r = id

namespace Holds

variable {Row Record : Type} {key : Row → Uuid} {writes : Row → Record → Prop} {rows : List Row}
  {record record' : Uuid → Option Record}

/-- The row of an identifier is that of its record. -/
theorem find?_eq_some (h : Holds key writes rows record) {id : Uuid} {x : Record}
    (hx : record id = some x) : ∃ r, rows.find? (fun r => key r = id) = some r ∧ writes r x := by
  cases hfind : rows.find? (fun r => key r = id) with
  | none =>
    obtain ⟨r, hr, hkey⟩ := h.complete hx
    have := List.find?_eq_none.mp hfind r hr
    simp [hkey] at this
  | some r =>
    have hkey : key r = id := by simpa using List.find?_some hfind
    obtain ⟨x', hx', hwrites⟩ := h.sound r (List.mem_of_find?_eq_some hfind)
    rw [hkey, hx] at hx'
    cases hx'
    exact ⟨r, rfl, hwrites⟩

theorem find?_eq_none (h : Holds key writes rows record) {id : Uuid} (hx : record id = none) :
    rows.find? (fun r => key r = id) = none := by
  rw [List.find?_eq_none]
  intro r hr hkey
  obtain ⟨x, hsome, -⟩ := h.sound r hr
  rw [of_decide_eq_true hkey, hx] at hsome
  cases hsome

/-- A row of a new key is a new record. -/
theorem add (h : Holds key writes rows record) {row : Row} {x : Record}
    (hfresh : record (key row) = none) (hwrites : writes row x)
    (hput : ∀ id, record' id = if key row = id then some x else record id) :
    Holds key writes (rows ++ [row]) record' := by
  have hne : ∀ r ∈ rows, key row ≠ key r := by
    intro r hr heq
    obtain ⟨x', hsome, -⟩ := h.sound r hr
    rw [← heq, hfresh] at hsome
    cases hsome
  constructor
  · rw [List.map_append, List.nodup_append]
    refine ⟨h.nodup, by simp, ?_⟩
    intro id hid id' hid'
    obtain ⟨r, hr, rfl⟩ := List.mem_map.mp hid
    cases List.mem_singleton.mp hid'
    exact (hne r hr).symm
  · intro r hr
    rcases List.mem_append.mp hr with hr | hr
    · obtain ⟨x', hsome, hw⟩ := h.sound r hr
      exact ⟨x', by rw [hput, if_neg (hne r hr), hsome], hw⟩
    · cases List.mem_singleton.mp hr
      exact ⟨x, by rw [hput, if_pos rfl], hwrites⟩
  · intro id x' hx'
    rw [hput] at hx'
    split at hx'
    · rename_i heq
      exact ⟨row, by simp, heq⟩
    · obtain ⟨r, hr, hkey⟩ := h.complete hx'
      exact ⟨r, List.mem_append_left _ hr, hkey⟩

/-- Changing the row of a key changes its record. -/
theorem change (h : Holds key writes rows record) {id : Uuid} {x x' : Record} {f : Row → Row}
    (hx : record id = some x) (hkey : ∀ r, key (f r) = key r)
    (hwrites : ∀ r, writes r x → writes (f r) x')
    (hput : ∀ id', record' id' = if id = id' then some x' else record id') :
    Holds key writes (rows.map fun r => if key r = id then f r else r) record' := by
  have hkeys : ∀ r, key (if key r = id then f r else r) = key r := by
    intro r
    split
    · exact hkey r
    · rfl
  constructor
  · rw [List.map_map]
    have : key ∘ (fun r => if key r = id then f r else r) = key := funext hkeys
    rw [this]
    exact h.nodup
  · intro r hr
    obtain ⟨r, hmem, rfl⟩ := List.mem_map.mp hr
    obtain ⟨x₀, hsome, hw⟩ := h.sound r hmem
    rw [hkeys, hput]
    by_cases heq : key r = id
    · rw [if_pos heq.symm, if_pos heq]
      rw [heq, hx] at hsome
      cases hsome
      exact ⟨x', rfl, hwrites r hw⟩
    · rw [if_neg (Ne.symm heq), if_neg heq]
      exact ⟨x₀, hsome, hw⟩
  · intro id' x₀ hx₀
    have : ∃ x₁, record id' = some x₁ := by
      rw [hput] at hx₀
      split at hx₀
      · rename_i heq
        exact ⟨x, heq ▸ hx⟩
      · exact ⟨x₀, hx₀⟩
    obtain ⟨x₁, hx₁⟩ := this
    obtain ⟨r, hr, hkey⟩ := h.complete hx₁
    exact ⟨_, List.mem_map_of_mem hr, (hkeys r).trans hkey⟩

end Holds

/-! ## Both tables -/

/-- The rows of both tables hold the records of a store. -/
structure Tables.Stores (t : Tables) (m : Memory) : Prop where
  lists : Holds ListRow.id ListRow.Writes t.lists fun id => m.lists[(⟨id⟩ : ListId)]?
  entries : Holds EntryRow.id EntryRow.Writes t.entries fun id => m.entries[(⟨id⟩ : EntryId)]?

/-- What a store holds fits the columns: every record was made and changed at a whole second, and
every lifetime is within the numbers of a column. -/
structure Memory.FitsColumns (m : Memory) : Prop where
  list : ∀ {id : ListId} {l}, m.lists[id]? = some l → l.createdAt.Whole ∧ l.updatedAt.Whole
  entry : ∀ {id : EntryId} {e}, m.entries[id]? = some e → e.createdAt.Whole ∧ e.updatedAt.Whole
  ttl : ∀ {id : ListId} {l n}, m.lists[id]? = some l → l.ttl = some n → n.toNat < 2 ^ 63

theorem Memory.putList_lists_eq (m : Memory) (l : StatusList) (id : Uuid) :
    (m.putList l).lists[(⟨id⟩ : ListId)]? =
      if l.id.uuid = id then some l else m.lists[(⟨id⟩ : ListId)]? := by
  split
  · rename_i heq
    rw [← heq]
    exact putList_lists_self m l
  · rename_i hne
    exact putList_lists_of_ne (fun heq => hne (congrArg ListId.uuid heq)) m

theorem Memory.putEntry_entries_eq (m : Memory) (e : StatusEntry) (id : Uuid) :
    (m.putEntry e).entries[(⟨id⟩ : EntryId)]? =
      if e.id.uuid = id then some e else m.entries[(⟨id⟩ : EntryId)]? := by
  split
  · rename_i heq
    rw [← heq]
    exact putEntry_entries_self m e
  · rename_i hne
    exact putEntry_entries_of_ne (fun heq => hne (congrArg EntryId.uuid heq)) m

namespace Tables.Stores

open Database Memory

variable {t : Tables} {m : Memory}

/-! ## Reads -/

theorem exists_list? (h : t.Stores m) {list : ListId} {l : StatusList}
    (hl : m.lists[list]? = some l) : ∃ row, t.list? list.uuid = some row ∧ row.Writes l :=
  h.lists.find?_eq_some hl

theorem list?_eq_none (h : t.Stores m) {list : ListId} (hl : m.lists[list]? = none) :
    t.list? list.uuid = none :=
  h.lists.find?_eq_none hl

/-- The row of an identifier stands for the list that is stored under it. -/
theorem listOfRow_list? (h : t.Stores m) (hfits : m.FitsColumns) (list : ListId) :
    listOfRow (t.list? list.uuid) = .ok m.lists[list]? := by
  cases hl : m.lists[list]? with
  | none =>
    rw [h.list?_eq_none hl]
    rfl
  | some l =>
    obtain ⟨row, hrow, hwrites⟩ := h.exists_list? hl
    obtain ⟨hcreated, hupdated⟩ := hfits.list hl
    rw [hrow, listOfRow, ListRow.toList_of_writes hwrites hcreated hupdated]
    rfl

/-- The row of a credential and a purpose is that of their entry. -/
theorem writes_of_entry? (h : t.Stores m) (hm : m.Consistent) {credential : CredentialId}
    {purpose : Purpose} {row : EntryRow} (hrow : t.entry? credential.text purpose.text = some row) :
    ∃ e, m.findEntry credential purpose = some e ∧ row.Writes e := by
  obtain ⟨hcredential, hpurpose⟩ : row.credential = credential.text ∧ row.purpose = purpose.text :=
    by simpa using List.find?_some (l := t.entries) hrow
  obtain ⟨e, he, hwrites⟩ := h.entries.sound row (List.mem_of_find?_eq_some hrow)
  rw [hwrites.credential_eq, CredentialId.text_inj] at hcredential
  rw [hwrites.purpose_eq, Purpose.text_inj] at hpurpose
  exact ⟨e, hm.findEntry_eq_some_iff.mpr ⟨hm.storesEntry he, hcredential, hpurpose⟩, hwrites⟩

/-- There is a row for a credential and a purpose iff they have an entry. -/
theorem entry?_eq_none_iff (h : t.Stores m) (hm : m.Consistent) {credential : CredentialId}
    {purpose : Purpose} :
    t.entry? credential.text purpose.text = none ↔ m.findEntry credential purpose = none := by
  constructor
  · intro hnone
    rw [hm.findEntry_eq_none_iff]
    rintro ⟨e, he, rfl, rfl⟩
    obtain ⟨row, hrow, hwrites⟩ := h.entries.find?_eq_some he
    have := List.find?_eq_none.mp hnone row (List.mem_of_find?_eq_some hrow)
    simp [hwrites.credential_eq, hwrites.purpose_eq] at this
  · intro hnone
    cases hrow : t.entry? credential.text purpose.text with
    | none => rfl
    | some row =>
      obtain ⟨e, he, -⟩ := h.writes_of_entry? hm hrow
      rw [hnone] at he
      cases he

theorem isSome_entry? (h : t.Stores m) (hm : m.Consistent) (credential : CredentialId)
    (purpose : Purpose) :
    (t.entry? credential.text purpose.text).isSome = (m.findEntry credential purpose).isSome := by
  rw [Bool.eq_iff_iff, Option.isSome_iff_ne_none, Option.isSome_iff_ne_none, ne_eq, ne_eq,
    h.entry?_eq_none_iff hm]

/-- The row of a credential and a purpose stands for their entry. -/
theorem entryOfRow_entry? (h : t.Stores m) (hm : m.Consistent) (hfits : m.FitsColumns)
    (credential : CredentialId) (purpose : Purpose) :
    entryOfRow (t.entry? credential.text purpose.text) = .ok (m.findEntry credential purpose) := by
  cases hrow : t.entry? credential.text purpose.text with
  | none =>
    rw [(h.entry?_eq_none_iff hm).mp hrow]
    rfl
  | some row =>
    obtain ⟨e, he, hwrites⟩ := h.writes_of_entry? hm hrow
    obtain ⟨hcreated, hupdated⟩ := hfits.entry (hm.findEntry_eq_some_iff.mp he).1
    rw [he, entryOfRow, EntryRow.toEntry_of_writes hwrites hcreated hupdated]
    rfl

end Tables.Stores

/-- A row is admitted to the search iff its list is available. -/
theorem ListRow.Writes.admitted_iff {row : ListRow} {l : StatusList} (h : row.Writes l)
    {issuer : IssuerId} {purpose : Purpose} {width : SlotWidth} :
    row.admitted issuer.text purpose.text (widthColumn width) = true ↔
      l.inGroup issuer purpose width = true ∧ l.hasRoom = true := by
  simp only [ListRow.admitted, StatusList.inGroup, StatusList.hasRoom, Bool.and_eq_true,
    decide_eq_true_eq, h.issuer_eq, h.purpose_eq, h.width_eq, IssuerId.text_inj, Purpose.text_inj,
    widthColumn_inj, column_lt_iff h.used_eq h.capacity_eq]

/-- Rows are in the order of their lists. -/
theorem ListRow.Writes.before_eq {row other : ListRow} {l l' : StatusList} (h : row.Writes l)
    (h' : other.Writes l') (hle : row.notAfter other = true) : l'.before l = false := by
  rw [← Bool.not_eq_true, StatusList.before_iff]
  rw [ListRow.notAfter_iff, h.createdAt_eq, h'.createdAt_eq, h.id_eq, h'.id_eq] at hle
  omega

namespace Tables.Stores

open Database Memory

variable {t : Tables} {m : Memory}

/-- **The first admitted row stands for the list that is offered.** -/
theorem listOfRow_available? (h : t.Stores m) (hm : m.Consistent) (hfits : m.FitsColumns)
    (issuer : IssuerId) (purpose : Purpose) (width : SlotWidth) :
    listOfRow (t.available? issuer.text purpose.text (widthColumn width)) =
      .ok (m.findAvailable issuer purpose width) := by
  have hrow : ∀ {l}, m.Available issuer purpose width l → ∃ row ∈ t.lists, row.Writes l ∧
      row.admitted issuer.text purpose.text (widthColumn width) = true := by
    intro l hl
    obtain ⟨row, hrow, hwrites⟩ := h.lists.find?_eq_some hl.stored
    exact ⟨row, List.mem_of_find?_eq_some hrow, hwrites,
      hwrites.admitted_iff.mpr ⟨hl.inGroup, hl.hasRoom⟩⟩
  cases hfirst : t.available? issuer.text purpose.text (widthColumn width) with
  | none =>
    have hnone : m.findAvailable issuer purpose width = none := by
      rw [hm.findAvailable_eq_none_iff]
      intro l hl
      obtain ⟨row, hmem, -, hadmitted⟩ := hrow hl
      rw [available?_eq_none hfirst row hmem] at hadmitted
      cases hadmitted
    rw [hnone]
    rfl
  | some row =>
    obtain ⟨⟨hmem, hadmitted⟩, hleast⟩ := available?_eq_some hfirst
    obtain ⟨l, hl, hwrites⟩ := h.lists.sound row hmem
    obtain ⟨hgroup, hroom⟩ := hwrites.admitted_iff.mp hadmitted
    have hsome : m.findAvailable issuer purpose width = some l := by
      rw [hm.findAvailable_eq_some_iff]
      refine ⟨⟨hm.storesList hl, hgroup, hroom⟩, ?_⟩
      intro l' hl'
      obtain ⟨other, hother, hwrites', hadmitted'⟩ := hrow hl'
      exact hwrites.before_eq hwrites' (hleast other hother hadmitted')
    obtain ⟨hcreated, hupdated⟩ := hfits.list hl
    rw [hsome, listOfRow, ListRow.toList_of_writes hwrites hcreated hupdated]
    rfl

/-! ## Writes -/

/-- The table of credentials has no rows of its own. -/
theorem index (h : t.Stores m) (e : StatusEntry) : t.Stores (m.index e) := ⟨h.lists, h.entries⟩

theorem addList (h : t.Stores m) {row : ListRow} {l : StatusList} (hrow : row.Writes l)
    (hfresh : m.lists[l.id]? = none) : (t.addList row).Stores (m.putList l) := by
  refine ⟨h.lists.add (x := l) ?_ hrow fun id => ?_, h.entries⟩
  · rw [hrow.id_eq]
    exact hfresh
  · rw [hrow.id_eq]
    exact putList_lists_eq m l id

theorem changeList (h : t.Stores m) {l l' : StatusList} (hl : m.StoresList l)
    {f : ListRow → ListRow} (hwrites : ∀ r, r.Writes l → (f r).Writes l')
    (hkey : ∀ r, (f r).id = r.id) (hid : l'.id = l.id) :
    (t.changeList l.id.uuid f).Stores (m.putList l') := by
  refine ⟨h.lists.change hl hkey hwrites fun id => ?_, h.entries⟩
  rw [← hid]
  exact putList_lists_eq m l' id

theorem addEntry (h : t.Stores m) {row : EntryRow} {e : StatusEntry} (hrow : row.Writes e)
    (hfresh : m.entries[e.id]? = none) : (t.addEntry row).Stores (m.putEntry e) := by
  refine ⟨h.lists, h.entries.add (x := e) ?_ hrow fun id => ?_⟩
  · rw [hrow.id_eq]
    exact hfresh
  · rw [hrow.id_eq]
    exact putEntry_entries_eq m e id

theorem changeEntry (h : t.Stores m) {e e' : StatusEntry} (he : m.StoresEntry e)
    {f : EntryRow → EntryRow} (hwrites : ∀ r, r.Writes e → (f r).Writes e')
    (hkey : ∀ r, (f r).id = r.id) (hid : e'.id = e.id) :
    (t.changeEntry e.id.uuid f).Stores (m.putEntry e') := by
  refine ⟨h.lists, h.entries.change he hkey hwrites fun id => ?_⟩
  rw [← hid]
  exact putEntry_entries_eq m e' id

end Tables.Stores

/-! ## What fits the columns -/

/-- What an operation brings to a store fits the columns: a lifetime within their numbers, and a
time in whole seconds. -/
def StoreRequest.FitsColumns : StoreRequest → Prop
  | .updateList l => (∀ n, l.ttl = some n → n.toNat < 2 ^ 63) ∧ l.updatedAt.Whole
  | _ => True

namespace Memory

variable {m : Memory} {stamp : Stamp} {q : StoreRequest}

theorem empty_fitsColumns : empty.FitsColumns := by
  constructor
  · intro id l hl
    rw [empty_lists] at hl
    cases hl
  · intro id e he
    rw [empty_entries] at he
    cases he
  · intro id l n hl
    rw [empty_lists] at hl
    cases hl

theorem FitsColumns.putList (h : m.FitsColumns) {l : StatusList}
    (hcreated : l.createdAt.Whole) (hupdated : l.updatedAt.Whole)
    (httl : ∀ n, l.ttl = some n → n.toNat < 2 ^ 63) : (m.putList l).FitsColumns := by
  have hlist : ∀ {id : ListId} {l'}, (m.putList l).lists[id]? = some l' →
      l' = l ∨ m.lists[id]? = some l' := by
    intro id l' hl'
    by_cases hid : l.id = id
    · rw [← hid, putList_lists_self] at hl'
      exact .inl (Option.some.inj hl').symm
    · rw [putList_lists_of_ne hid] at hl'
      exact .inr hl'
  refine ⟨?_, h.entry, ?_⟩
  · intro id l' hl'
    rcases hlist hl' with rfl | hl'
    · exact ⟨hcreated, hupdated⟩
    · exact h.list hl'
  · intro id l' n hl' hn
    rcases hlist hl' with rfl | hl'
    · exact httl n hn
    · exact h.ttl hl' hn

theorem FitsColumns.putEntry (h : m.FitsColumns) {e : StatusEntry}
    (hcreated : e.createdAt.Whole) (hupdated : e.updatedAt.Whole) : (m.putEntry e).FitsColumns := by
  refine ⟨h.list, ?_, h.ttl⟩
  intro id e' he'
  by_cases hid : e.id = id
  · rw [← hid, putEntry_entries_self] at he'
    cases he'
    exact ⟨hcreated, hupdated⟩
  · rw [putEntry_entries_of_ne hid] at he'
    exact h.entry he'

theorem FitsColumns.index (h : m.FitsColumns) (e : StatusEntry) : (m.index e).FitsColumns :=
  ⟨h.list, h.entry, h.ttl⟩

/-- A lifetime that a list is made with is within the numbers of a column. -/
theorem ttl_lt_of_create {r : ListRequest} {id : ListId} {now : Timestamp} {l : StatusList}
    (h : StatusList.create r id now = .ok l) : ∀ n, l.ttl = some n → n.toNat < 2 ^ 63 := by
  intro n hn
  obtain ⟨p, hp, rfl⟩ := StatusList.create_eq_ok h
  have httl : n ≤ maxTtl := planTtl_eq_ok ((StatusList.plan_eq_ok hp).2.2.trans (congrArg _ hn))
  have := UInt64.le_iff_toNat_le.mp httl
  have hmax : maxTtl.toNat = 3153600000000 := rfl
  omega

/-- **Operations at whole seconds bring nothing to a store that does not fit the columns.** -/
theorem answer_fitsColumns (hm : m.Consistent) (h : m.FitsColumns) (hnow : stamp.now.Whole)
    (hq : q.FitsColumns) : (m.answer stamp q).2.FitsColumns := by
  have hchange := answer_change m stamp q
  generalize (m.answer stamp q).2 = m' at hchange ⊢
  cases hchange with
  | none => exact h
  | list made =>
    have httl := ttl_lt_of_create made
    obtain ⟨p, -, rfl⟩ := StatusList.create_eq_ok made
    exact h.putList hnow hnow httl
  | settings found =>
    rw [settings_eq_putList hm found]
    exact h.putList (h.list found).1 hq.2 hq.1
  | entry allots =>
    rename_i r l
    have httl : ∀ n, l.ttl = some n → n.toNat < 2 ^ 63 := fun _ => h.ttl allots.list_eq
    have hslot : (m.putList (l.withSlotTaken stamp.now)).FitsColumns :=
      h.putList (h.list allots.list_eq).1 hnow httl
    exact (hslot.index (entryIn l r stamp)).putEntry hnow hnow
  | status found list set =>
    rename_i u e l l' code
    have httl : ∀ n, l.ttl = some n → n.toNat < 2 ^ 63 := fun _ => h.ttl list
    obtain ⟨-, data, data', -, -, rfl⟩ := StatusList.setStatus_eq_ok set
    have hbits : (m.putList (l.withEncodedList (Bitstring.encode data') stamp.now)).FitsColumns :=
      h.putList (h.list list).1 hnow httl
    exact hbits.putEntry (h.entry (hm.findEntry_eq_some_iff.mp found).1).1 hnow

end Memory

/-! ## Every store has its rows -/

/-- A table has rows, if each of its records has one. -/
theorem exists_holds {Key Row Record : Type} [BEq Key] [Hashable Key] [LawfulBEq Key]
    [LawfulHashable Key] {key : Row → Uuid} {writes : Row → Record → Prop} {uuid : Key → Uuid}
    {ofUuid : Uuid → Key} (hofUuid : ∀ k, ofUuid (uuid k) = k) (huuid : ∀ id, uuid (ofUuid id) = id)
    (table : Std.HashMap Key Record)
    (hrow : ∀ k x, table[k]? = some x → ∃ r, key r = uuid k ∧ writes r x) :
    ∃ rows, Holds key writes rows fun id => table[ofUuid id]? := by
  have hmem : ∀ {k x}, (k, x) ∈ table.toList ↔ table[k]? = some x :=
    Std.HashMap.mem_toList_iff_getElem?_eq_some
  let row (p : { p // p ∈ table.toList }) : Row := (hrow p.1.1 p.1.2 (hmem.mp p.2)).choose
  have hspec : ∀ p, key (row p) = uuid p.1.1 ∧ writes (row p) p.1.2 :=
    fun p => (hrow p.1.1 p.1.2 (hmem.mp p.2)).choose_spec
  refine ⟨table.toList.attach.map row, ?_, ?_, ?_⟩
  · have hkeys : (table.toList.attach.map row).map key = table.toList.map fun p => uuid p.1 :=
      calc (table.toList.attach.map row).map key
          = table.toList.attach.map fun p => uuid p.1.1 := by
            rw [List.map_map]
            exact List.map_congr_left fun p _ => (hspec p).1
        _ = table.toList.map fun p => uuid p.1 :=
            List.attach_map_val (f := fun p : Key × Record => uuid p.1)
    rw [hkeys]
    refine List.pairwise_map.mpr (Std.HashMap.distinct_keys_toList.imp ?_)
    intro p q hne heq
    rw [← hofUuid p.1, heq, hofUuid, beq_self_eq_true] at hne
    cases hne
  · intro r hr
    obtain ⟨p, -, rfl⟩ := List.mem_map.mp hr
    obtain ⟨hkey, hwrites⟩ := hspec p
    refine ⟨p.1.2, ?_, hwrites⟩
    rw [hkey, hofUuid]
    exact hmem.mp p.2
  · intro id x hx
    refine ⟨row ⟨(ofUuid id, x), hmem.mpr hx⟩, List.mem_map_of_mem (List.mem_attach _ _), ?_⟩
    rw [(hspec _).1, huuid]

/-- **Every store that fits the columns has rows that hold it.** -/
theorem Memory.Consistent.exists_stores {m : Memory} (hm : m.Consistent) (hfits : m.FitsColumns) :
    ∃ t : Tables, t.Stores m := by
  have hlist : ∀ (id : ListId) l, m.lists[id]? = some l →
      ∃ r : ListRow, r.id = id.uuid ∧ r.Writes l := by
    intro id l hl
    have hsound := hm.sound (hm.storesList hl)
    have hcapacity := StatusList.capacity_toNat_le hsound.le_maxCapacity
    have hused := UInt64.le_iff_toNat_le.mp hsound.used_le
    obtain ⟨row, hrow⟩ := ListRow.exists_writes (l := l) (by omega) (by omega)
      fun n => hfits.ttl hl
    exact ⟨row, by rw [hrow.id_eq, hm.list_id hl], hrow⟩
  have hentry : ∀ (id : EntryId) e, m.entries[id]? = some e →
      ∃ r : EntryRow, r.id = id.uuid ∧ r.Writes e := by
    intro id e he
    obtain ⟨l, -, hl, hid, -, -⟩ := hm.list_of_entry (hm.storesEntry he)
    have hcapacity := StatusList.capacity_toNat_le (hm.sound hl).le_maxCapacity
    have hindex := UInt64.lt_iff_toNat_lt.mp (hm.index_lt_capacity (hm.storesEntry he) hl hid)
    obtain ⟨row, hrow⟩ := EntryRow.exists_writes (e := e) (by omega)
    exact ⟨row, by rw [hrow.id_eq, hm.entry_id he], hrow⟩
  obtain ⟨lists, hlists⟩ := exists_holds (fun _ => rfl) (fun _ => rfl) m.lists hlist
  obtain ⟨entries, hentries⟩ := exists_holds (fun _ => rfl) (fun _ => rfl) m.entries hentry
  exact ⟨⟨lists, entries⟩, hlists, hentries⟩

end StatusRegistry

import StatusRegistry.Proofs.Store.History
import StatusRegistry.Proofs.Store.StatusChange
import StatusRegistry.Proofs.StatusList.Runs

/-!
# The text of a list follows its codes

The text under which a list is published tells nothing of how its codes came about.  A bitstring is
nothing but its slots, those behind the capacity hold 0, and the text is written from the bitstring
alone; so the codes settle the text.

* `StatusList.SameCodes`: two lists of one size that read the same in every slot;
* `Consistent.encodedList_eq`: such lists have the same text, in whatever stores they are;
* `SameRecords`: two stores that hold the same records, up to codes, texts, settings and times;
* `Consistent.text_eq`: in such stores equal codes of the entries make equal texts of the lists;
* `reachable_text_follows_codes`: what this means for changes of a status.
-/

set_option autoImplicit false

namespace StatusRegistry

/-! ## Lists that read the same -/

namespace StatusList

/-- Two lists of one capacity and width that read the same in every slot. -/
structure SameCodes (l l' : StatusList) : Prop where
  capacity_eq : l'.capacity = l.capacity
  width_eq : l'.width = l.width
  statusAt_eq : ∀ index, index < l.capacity → l'.statusAt index = l.statusAt index

/-- What a sound list reads in a slot is what the slot of its bitstring holds. -/
theorem Sound.statusAt_eq_ok_iff {l : StatusList} (hl : l.Sound) {data : ByteArray}
    (hdata : l.Holds data) {index : UInt64} (hindex : index < l.capacity) {code : UInt8} :
    l.statusAt index = .ok code ↔ Bitstring.readSlot data index.toNat l.width = .ok code := by
  have hdecode := hdata.decode_eq hl.le_maxCapacity
  constructor
  · intro hstatus
    have hread := Bitstring.readSlot_eq_ok (hdata.lt_slotCount hl.le_maxCapacity hindex)
    rw [statusAt_eq_ok hindex hdecode hread] at hstatus
    rw [hread, Except.ok.inj hstatus]
  · exact StatusList.statusAt_eq_ok hindex hdecode

/-- A list that differs from another in the text, the settings and the times only reads as its text
does. -/
theorem statusAt_congr {l l' : StatusList} (hcapacity : l'.capacity = l.capacity)
    (hwidth : l'.width = l.width) (htext : l'.encodedList = l.encodedList) (index : UInt64) :
    l'.statusAt index = l.statusAt index := by
  unfold statusAt checkIndex
  rw [hcapacity, hwidth, htext]

end StatusList

namespace Memory

/-- The text of a list, if the list is stored. -/
def text (m : Memory) (id : ListId) : Option String := m.lists[id]?.map (·.encodedList)

/-- The code of an entry, if the entry is stored. -/
def code (m : Memory) (id : EntryId) : Option UInt8 := m.entries[id]?.map (·.status)

theorem StoresList.text_eq {m : Memory} {l : StatusList} (hl : m.StoresList l) :
    m.text l.id = some l.encodedList := by
  unfold text
  rw [hl]
  rfl

theorem StoresEntry.code_eq {m : Memory} {e : StatusEntry} (he : m.StoresEntry e) :
    m.code e.id = some e.status := by
  unfold code
  rw [he]
  rfl

/-- Behind the capacity of a list every slot holds 0, as no entry holds it. -/
theorem Consistent.readSlot_padding {m : Memory} (h : m.Consistent) {l : StatusList}
    (hl : m.StoresList l) {data : ByteArray} (hdata : l.Holds data) {index : Nat}
    (hindex : index < Bitstring.slotCount data.size l.width) (hpast : l.capacity.toNat ≤ index) :
    Bitstring.readSlot data index l.width = .ok 0 := by
  apply (h.accounted hl).blank hdata hindex
  rintro e he hlist rfl
  have hlt := UInt64.lt_iff_toNat_lt.mp (h.index_lt_capacity he hl hlist)
  omega

/-- **Lists that read the same have the same text**, in whatever stores they are. -/
theorem Consistent.encodedList_eq {m m' : Memory} (h : m.Consistent) (h' : m'.Consistent)
    {l l' : StatusList} (hl : m.StoresList l) (hl' : m'.StoresList l') (hcodes : l.SameCodes l') :
    l'.encodedList = l.encodedList := by
  have hsound := h.sound hl
  have hsound' := h'.sound hl'
  obtain ⟨data, hdata⟩ := hsound.readable
  obtain ⟨data', hdata'⟩ := hsound'.readable
  have hsize : data'.size = data.size := by
    rw [hdata'.size_eq, hdata.size_eq, hcodes.capacity_eq, hcodes.width_eq]
  rw [hdata'.text_eq, hdata.text_eq]
  congr 1
  refine Bitstring.eq_of_readSlot l.width hsize fun index hindex => ?_
  rw [hsize] at hindex
  by_cases hinside : index < l.capacity.toNat
  · -- a slot of the lists: both read the same code there
    have hlt : UInt64.ofNat index < l.capacity := by
      rw [UInt64.lt_iff_toNat_lt, UInt64.toNat_ofNat']
      exact Nat.lt_of_le_of_lt (Nat.mod_le _ _) hinside
    have hindexNat : (UInt64.ofNat index).toNat = index := by
      have := l.capacity.toNat_lt
      rw [UInt64.toNat_ofNat', Nat.mod_eq_of_lt (by omega)]
    have hread := Bitstring.readSlot_eq_ok (hdata.lt_slotCount hsound.le_maxCapacity hlt)
    have hstatus := (hsound.statusAt_eq_ok_iff hdata hlt).mpr hread
    rw [← hcodes.statusAt_eq _ hlt,
      hsound'.statusAt_eq_ok_iff hdata' (hcodes.capacity_eq ▸ hlt)] at hstatus
    rw [hindexNat] at hread hstatus
    rw [hread, ← hstatus, hcodes.width_eq]
  · -- padding
    have hpast := Nat.not_lt.mp hinside
    rw [h.readSlot_padding hl hdata hindex hpast]
    rw [← hcodes.width_eq]
    refine h'.readSlot_padding hl' hdata' ?_ ?_
    · rw [hsize, hcodes.width_eq]
      exact hindex
    · rw [hcodes.capacity_eq]
      exact hpast

/-! ## Stores with the same codes -/

/-- A list reads the code of each of its entries in the slot of the entry. -/
theorem Consistent.statusAt_held {m : Memory} (h : m.Consistent) {l : StatusList}
    (hl : m.StoresList l) {e : StatusEntry} (he : m.StoresEntry e) (hlist : e.list = l.id) :
    l.statusAt e.index = .ok e.status := by
  obtain ⟨data, hdata⟩ := (h.sound hl).readable
  rw [(h.sound hl).statusAt_eq_ok_iff hdata (h.index_lt_capacity he hl hlist)]
  exact (h.accounted hl).status_eq he hlist hdata

/-- A list reads 0 in a slot that no entry holds. -/
theorem Consistent.statusAt_free {m : Memory} (h : m.Consistent) {l : StatusList}
    (hl : m.StoresList l) {index : UInt64} (hindex : index < l.capacity)
    (hfree : ∀ e, m.StoresEntry e → e.list = l.id → e.index ≠ index) :
    l.statusAt index = .ok 0 := by
  obtain ⟨data, hdata⟩ := (h.sound hl).readable
  rw [(h.sound hl).statusAt_eq_ok_iff hdata hindex]
  apply (h.accounted hl).blank hdata (hdata.lt_slotCount (h.sound hl).le_maxCapacity hindex)
  intro e he hlist heq
  exact hfree e he hlist (UInt64.toNat_inj.mp heq)

/-- Two stores hold the same records: each holds every record of the other. -/
structure SameRecords (m m' : Memory) : Prop where
  onward : m.Extends m'
  back : m'.Extends m

namespace SameRecords

variable {m m' m'' : Memory}

theorem symm (h : SameRecords m m') : SameRecords m' m := ⟨h.back, h.onward⟩

theorem trans (h : SameRecords m m') (h' : SameRecords m' m'') : SameRecords m m'' :=
  ⟨h.onward.trans h'.onward, h'.back.trans h.back⟩

end SameRecords

/-- A list reads the same in two stores with the same records, if the entries of both have the same
codes. -/
theorem Consistent.statusAt_eq {m m' : Memory} (h : m.Consistent) (h' : m'.Consistent)
    (hsame : SameRecords m m') (hcode : ∀ id, m'.code id = m.code id) {l l' : StatusList}
    (hl : m.StoresList l) (hl' : m'.StoresList l') (hll : l.Same l') {index : UInt64}
    (hindex : index < l.capacity) : l'.statusAt index = l.statusAt index := by
  by_cases hheld : ∃ e, m.StoresEntry e ∧ e.list = l.id ∧ e.index = index
  · obtain ⟨e, he, hlist, rfl⟩ := hheld
    obtain ⟨e', he', hee⟩ := hsame.onward.entry he
    have hstatus : e'.status = e.status := by
      have := hcode e.id
      rw [he.code_eq, ← hee.id_eq, he'.code_eq] at this
      exact Option.some.inj this
    rw [h.statusAt_held hl he hlist, ← hee.index_eq, ← hstatus]
    exact h'.statusAt_held hl' he' (by rw [hee.list_eq, hlist, hll.id_eq])
  · rw [h.statusAt_free hl hindex fun e he hlist heq => hheld ⟨e, he, hlist, heq⟩]
    apply h'.statusAt_free hl' (by rw [hll.capacity_eq]; exact hindex)
    intro e' he' hlist' heq
    obtain ⟨e, he, hee⟩ := hsame.back.entry he'
    exact hheld ⟨e, he, by rw [hee.list_eq, hlist', hll.id_eq], hee.index_eq.trans heq⟩

/-- **In stores with the same records, equal codes of the entries make equal texts of the
lists.** -/
theorem Consistent.text_eq {m m' : Memory} (h : m.Consistent) (h' : m'.Consistent)
    (hsame : SameRecords m m') (hcode : ∀ id, m'.code id = m.code id) (id : ListId) :
    m'.text id = m.text id := by
  cases hfound : m.lists[id]? with
  | some l =>
    obtain rfl := h.list_id hfound
    obtain ⟨l', hl', hll, -⟩ := hsame.onward.list hfound
    have hcodes : l.SameCodes l' := ⟨hll.capacity_eq, hll.width_eq, fun index hindex =>
      h.statusAt_eq h' hsame hcode hfound hl' hll hindex⟩
    have htext' := hl'.text_eq
    rw [hll.id_eq] at htext'
    rw [htext', StoresList.text_eq hfound, h.encodedList_eq h' hfound hl' hcodes]
  | none =>
    cases hfound' : m'.lists[id]? with
    | some l' =>
      obtain rfl := h'.list_id hfound'
      obtain ⟨l, hl, hll, -⟩ := hsame.back.list hfound'
      unfold StoresList at hl
      rw [hll.id_eq, hfound] at hl
      cases hl
    | none => rw [text, text, hfound, hfound']

/-! ## Changes of a status -/

section Changes

variable {m m' : Memory} {u v : StatusUpdate} {e : StatusEntry} {l : StatusList}

/-- The code of one entry was changed, and no record came or went. -/
structure Recoded (m m' : Memory) (id : EntryId) (status : UInt8) : Prop where
  same : SameRecords m m'
  code_self : m'.code id = some status
  code_other : ∀ other, other ≠ id → m'.code other = m.code other

theorem Consistent.updateStatus (h : m.Consistent) (u : StatusUpdate) (now : Timestamp) :
    (m.updateStatus u now).2.Consistent := by
  have hfresh : m.Fresh (⟨now, .nil⟩ : Stamp).fresh (.updateStatus u) := trivial
  have hafter := answer_consistent h hfresh
  exact hafter

theorem extends_updateStatus (h : m.Consistent) (u : StatusUpdate) (now : Timestamp) :
    m.Extends (m.updateStatus u now).2 := by
  have hfresh : m.Fresh (⟨now, .nil⟩ : Stamp).fresh (.updateStatus u) := trivial
  have hafter := answer_extends h hfresh
  exact hafter

/-- What is written over one entry and its list can be told back. -/
theorem StatusWritten.recoded (ha : m.Assigned u.credential u.purpose e l) {e' : StatusEntry}
    {l' : StatusList} {now : Timestamp} (hextends : m.Extends m')
    (hw : StatusWritten m m' e e' l l' u.status now) : Recoded m m' e.id e'.status := by
  have hid : e'.id = e.id := by rw [hw.entry_eq]
  refine ⟨⟨hextends, ?_, ?_⟩, ?_, ?_⟩
  · intro o ho
    by_cases hol : o.id = l.id
    · have heq : o = l' := ho.unique hw.list_stored (by rw [hol, hw.list_eq])
      refine ⟨l, ha.list, ?_, ?_⟩
      · rw [heq, hw.list_eq]
        exact ⟨rfl, rfl, rfl, rfl, rfl, rfl⟩
      · rw [heq, hw.list_eq]
        exact UInt64.le_refl _
    · unfold StoresList at ho
      rw [hw.lists_eq _ hol] at ho
      exact ⟨o, ho, .refl o, UInt64.le_refl _⟩
  · intro o ho
    by_cases hoe : o.id = e.id
    · have heq : o = e' := ho.unique hw.entry_stored (hoe.trans hid.symm)
      refine ⟨e, ha.entry, ?_⟩
      rw [heq, hw.entry_eq]
      exact ⟨rfl, rfl, rfl, rfl, rfl, rfl, rfl⟩
    · unfold StoresEntry at ho
      rw [hw.entries_eq _ hoe] at ho
      exact ⟨o, ho, .refl o⟩
  · rw [← hid]
    exact hw.entry_stored.code_eq
  · intro other hother
    rw [code, code, hw.entries_eq other hother]

/-- A code that fits is written into the entry of its credential, and no other code is. -/
theorem Consistent.recoded (h : m.Consistent) (ha : m.Assigned u.credential u.purpose e l)
    (hcode : u.status.toNat ≤ l.width.maxCode) (now : Timestamp) :
    (m.updateStatus u now).1.success = true ∧
      Recoded m (m.updateStatus u now).2 e.id (.ofNat u.status.toNat) := by
  have hextends := extends_updateStatus h u now
  obtain ⟨e', l', m', heq, hw⟩ := updateStatus_written h ha hcode now
  rw [heq] at hextends ⊢
  refine ⟨rfl, ?_⟩
  rw [← hw.status_eq, UInt8.ofNat_toNat]
  exact hw.recoded ha hextends

/-- An entry and its list are still those of a credential in a store with the same records. -/
theorem SameRecords.assigned (h : SameRecords m m') {credential : CredentialId} {purpose : Purpose}
    (ha : m.Assigned credential purpose e l) :
    ∃ e' l', m'.Assigned credential purpose e' l' ∧ e.Same e' ∧ l.Same l' := by
  obtain ⟨e', he', hee⟩ := h.onward.entry ha.entry
  obtain ⟨l', hl', hll, -⟩ := h.onward.list ha.list
  exact ⟨e', l', ⟨he', hee.credential_eq.trans ha.credential_eq,
    hee.purpose_eq.trans ha.purpose_eq, hl', by rw [hee.list_eq, ha.list_eq, hll.id_eq]⟩, hee, hll⟩

/-- The code of an entry fits its list. -/
theorem Consistent.status_le (h : m.Consistent) {credential : CredentialId} {purpose : Purpose}
    (ha : m.Assigned credential purpose e l) : e.status.toNat ≤ l.width.maxCode := by
  obtain ⟨data, hdata⟩ := (h.sound ha.list).readable
  have hread := (h.accounted ha.list).status_eq ha.entry ha.list_eq hdata
  exact Bitstring.lt_codeCount_iff.mp (Bitstring.readSlot_lt hread)

/-- A change that is made changes the text of its list iff it changes the code in the slot. -/
theorem Consistent.text_changes_iff (h : m.Consistent) {now : Timestamp}
    (hsuccess : (m.updateStatus u now).1.success = true) :
    ∃ e l l', m.findEntry u.credential u.purpose = some e ∧ m.lists[e.list]? = some l ∧
      (m.updateStatus u now).2.lists[e.list]? = some l' ∧
        (l'.encodedList ≠ l.encodedList ↔ l'.statusAt e.index ≠ l.statusAt e.index) := by
  have h' := h.updateStatus u now
  obtain ⟨e, l, ha, -, e', l', -, hw⟩ := h.written_of_success hsuccess
  have hlist := hw.list_eq
  obtain ⟨hfind, hfound⟩ := h.found ha
  have hstored' : (m.updateStatus u now).2.lists[e.list]? = some l' := by
    have hid : l'.id = e.list := by rw [hlist, ha.list_eq]
    rw [← hid]
    exact hw.list_stored
  refine ⟨e, l, l', hfind, hfound, hstored', not_congr ⟨?_, ?_⟩⟩
  · intro htext
    exact StatusList.statusAt_congr (by rw [hlist]) (by rw [hlist]) htext _
  · intro hstatus
    refine h.encodedList_eq h' ha.list hw.list_stored ⟨by rw [hlist], by rw [hlist], ?_⟩
    intro index hindex
    by_cases heq : index = e.index
    · rw [heq, hstatus]
    · -- the other slots keep their codes
      obtain ⟨data, data', hdata, hdata', hsize, -, hother⟩ := hw.slots
      have hholds := (h.sound ha.list).holds_of_decode hdata
      have hread := Bitstring.readSlot_eq_ok
        (hholds.lt_slotCount (h.sound ha.list).le_maxCapacity hindex)
      rw [StatusList.statusAt_eq_ok hindex hdata hread]
      refine StatusList.statusAt_eq_ok (by rw [hlist]; exact hindex) hdata' ?_
      rw [hlist]
      show Bitstring.readSlot data' index.toNat l.width = _
      rw [hother index.toNat fun htoNat => heq (UInt64.toNat_inj.mp htoNat), hread]

/-- A change that is undone leaves the texts as they were. -/
theorem Consistent.text_restored (h : m.Consistent) {now : Timestamp}
    (hsuccess : (m.updateStatus u now).1.success = true)
    (hcredential : v.credential = u.credential) (hpurpose : v.purpose = u.purpose)
    (hstatus : ∀ e, m.findEntry u.credential u.purpose = some e →
      v.status.toNat = e.status.toNat) (later : Timestamp) :
    ((m.updateStatus u now).2.updateStatus v later).1.success = true ∧
      ∀ id, ((m.updateStatus u now).2.updateStatus v later).2.text id = m.text id := by
  have h' := h.updateStatus u now
  obtain ⟨e, l, ha, hcode, -⟩ := h.written_of_success hsuccess
  have hold := hstatus e (h.found ha).1
  obtain ⟨-, hchanged⟩ := h.recoded ha hcode now
  obtain ⟨e', l', ha', hee, hll⟩ := hchanged.same.assigned ha
  rw [← hcredential, ← hpurpose] at ha'
  have hfits : v.status.toNat ≤ l'.width.maxCode := by
    rw [hold, hll.width_eq]
    exact h.status_le ha
  obtain ⟨hdone, hundone⟩ := h'.recoded ha' hfits later
  refine ⟨hdone, ?_⟩
  refine h.text_eq (h'.updateStatus v later) (hchanged.same.trans hundone.same) fun id => ?_
  by_cases hid : id = e.id
  · rw [hid, ← hee.id_eq, hundone.code_self, hee.id_eq, ha.entry.code_eq, hold, UInt8.ofNat_toNat]
  · rw [hundone.code_other id (by rw [hee.id_eq]; exact hid), hchanged.code_other id hid]

/-- Two changes for different credentials or purposes are made in either order, and come to the same
texts and codes. -/
theorem Consistent.updates_commute (h : m.Consistent)
    (hne : (u.credential, u.purpose) ≠ (v.credential, v.purpose)) {t₁ t₂ : Timestamp}
    (hu : (m.updateStatus u t₁).1.success = true)
    (hv : ((m.updateStatus u t₁).2.updateStatus v t₂).1.success = true) (t₃ t₄ : Timestamp) :
    (m.updateStatus v t₃).1.success = true ∧
      ((m.updateStatus v t₃).2.updateStatus u t₄).1.success = true ∧
      (∀ id, ((m.updateStatus v t₃).2.updateStatus u t₄).2.text id =
        ((m.updateStatus u t₁).2.updateStatus v t₂).2.text id) ∧
      ∀ id, ((m.updateStatus v t₃).2.updateStatus u t₄).2.code id =
        ((m.updateStatus u t₁).2.updateStatus v t₂).2.code id := by
  have h₁ := h.updateStatus u t₁
  have h₂ := h.updateStatus v t₃
  obtain ⟨e, l, ha, hcode, -⟩ := h.written_of_success hu
  obtain ⟨-, hfirst⟩ := h.recoded ha hcode t₁
  obtain ⟨f', k', hb', hcode', -⟩ := h₁.written_of_success hv
  obtain ⟨-, hsecond⟩ := h₁.recoded hb' hcode' t₂
  -- the other change may come first, as its entry is not touched
  obtain ⟨f, k, hb, hff, hkk⟩ := hfirst.same.symm.assigned hb'
  obtain ⟨hdone, hfirst'⟩ := h.recoded hb (by rw [hkk.width_eq]; exact hcode') t₃
  obtain ⟨e', l', ha', hee, hll⟩ := hfirst'.same.assigned ha
  obtain ⟨hdone', hsecond'⟩ := h₂.recoded ha' (by rw [hll.width_eq]; exact hcode) t₄
  have hids : e.id ≠ f.id := by
    intro hid
    have heq := ha.entry.unique hb.entry hid
    apply hne
    rw [← ha.credential_eq, ← ha.purpose_eq, heq, hb.credential_eq, hb.purpose_eq]
  rw [hee.id_eq] at hsecond'
  rw [← hff.id_eq] at hsecond
  have hcodes : ∀ id, ((m.updateStatus v t₃).2.updateStatus u t₄).2.code id =
      ((m.updateStatus u t₁).2.updateStatus v t₂).2.code id := by
    intro id
    by_cases he : id = e.id
    · rw [he, hsecond'.code_self, hsecond.code_other _ hids, hfirst.code_self]
    · rw [hsecond'.code_other id he]
      by_cases hf : id = f.id
      · rw [hf, hfirst'.code_self, hsecond.code_self]
      · rw [hfirst'.code_other id hf, hsecond.code_other id hf, hfirst.code_other id he]
  refine ⟨hdone, hdone', ?_, hcodes⟩
  refine (h₁.updateStatus v t₂).text_eq (h₂.updateStatus u t₄) ?_ hcodes
  exact (hfirst.same.trans hsecond.same).symm.trans (hfirst'.same.trans hsecond'.same)

end Changes

/-! ## Every store -/

/-- What the texts of the lists of a store tell: the codes, and nothing of how they came about. -/
structure TextFollowsCodes (m : Memory) : Prop where
  /-- A list of the store has the text of every list, of this store or another one, that has its
  capacity and width and reads the same in every slot. -/
  text_unique : ∀ {m' : Memory}, m'.Reachable → ∀ {id id' : ListId} {l l' : StatusList},
    m.lists[id]? = some l → m'.lists[id']? = some l' → l.SameCodes l' →
      l'.encodedList = l.encodedList
  /-- A change of a status that is made changes the text of its list iff it changes the code in the
  slot. -/
  text_changes_iff : ∀ {u : StatusUpdate} {now : Timestamp},
    (m.updateStatus u now).1.success = true →
      ∃ e l l', m.findEntry u.credential u.purpose = some e ∧ m.lists[e.list]? = some l ∧
        (m.updateStatus u now).2.lists[e.list]? = some l' ∧
          (l'.encodedList ≠ l.encodedList ↔ l'.statusAt e.index ≠ l.statusAt e.index)
  /-- A change back to the code that an entry had before is made, and restores every text. -/
  text_restored : ∀ {u v : StatusUpdate} {now : Timestamp},
    (m.updateStatus u now).1.success = true → v.credential = u.credential →
      v.purpose = u.purpose →
      (∀ e, m.findEntry u.credential u.purpose = some e → v.status.toNat = e.status.toNat) →
        ∀ later, ((m.updateStatus u now).2.updateStatus v later).1.success = true ∧
          ∀ id, ((m.updateStatus u now).2.updateStatus v later).2.text id = m.text id
  /-- Two changes for different credentials or purposes that are made in one order are made in the
  other one, with the same texts and codes in the end. -/
  either_order : ∀ {u v : StatusUpdate},
    (u.credential, u.purpose) ≠ (v.credential, v.purpose) → ∀ {t₁ t₂ : Timestamp},
      (m.updateStatus u t₁).1.success = true →
      ((m.updateStatus u t₁).2.updateStatus v t₂).1.success = true → ∀ t₃ t₄,
        (m.updateStatus v t₃).1.success = true ∧
          ((m.updateStatus v t₃).2.updateStatus u t₄).1.success = true ∧
          (∀ id, ((m.updateStatus v t₃).2.updateStatus u t₄).2.text id =
            ((m.updateStatus u t₁).2.updateStatus v t₂).2.text id) ∧
          ∀ id, ((m.updateStatus v t₃).2.updateStatus u t₄).2.code id =
            ((m.updateStatus u t₁).2.updateStatus v t₂).2.code id

/-- **In every store that a sequence of operations leads to, the texts of the lists follow from
their codes**, whatever operations the codes came from. -/
theorem reachable_text_follows_codes {m : Memory} (hm : m.Reachable) : m.TextFollowsCodes := by
  have h := hm.consistent
  refine ⟨?_, h.text_changes_iff, h.text_restored, h.updates_commute⟩
  intro m' hm' id id' l l' hl hl' hcodes
  exact h.encodedList_eq hm'.consistent (h.storesList hl) (hm'.consistent.storesList hl') hcodes

/-- In the sample store, a credential is revoked and reinstated: the text of its list is as it was
before. -/
theorem sample_text_restored :
    (Sample.store.updateStatus ⟨Sample.credential, 1, .revocation, none⟩ ⟨.epoch⟩).1.success =
        true ∧
      ((Sample.store.updateStatus ⟨Sample.credential, 1, .revocation, none⟩ ⟨.epoch⟩).2.updateStatus
        ⟨Sample.credential, 0, .revocation, some "reinstated"⟩ ⟨.epoch⟩).2.text Sample.list.id =
        Sample.store.text Sample.list.id := by
  have hfound := (Sample.reachable.consistent.found
    (u := ⟨Sample.credential, 1, .revocation, none⟩) Sample.assigned).1
  have hset : (Sample.store.updateStatus ⟨Sample.credential, 1, .revocation, none⟩
      ⟨.epoch⟩).1.success = true :=
    (Sample.reachable.consistent.recoded Sample.assigned (by decide) ⟨.epoch⟩).1
  refine ⟨hset, ((reachable_text_follows_codes Sample.reachable).text_restored
    (v := ⟨Sample.credential, 0, .revocation, some "reinstated"⟩) hset rfl rfl ?_ ⟨.epoch⟩).2 _⟩
  intro e he
  rw [hfound] at he
  cases he
  rfl

end Memory

end StatusRegistry

import StatusRegistry.Proofs.Store.Consistency

/-!
# What a store never forgets

Lists and entries stay in a store once they are there, and what is fixed when they are made stays
as it was.  The answers of a store are told here in the same terms.

* `Memory.Extends`: a store holds every record of another one;
* `Leads.extends`: operations only extend a store;
* `createEntry_answer`, `createList_answer`: what an answer says of the store;
* `createEntry_cases`: why a store refuses an entry for a slot that it has offered before.
-/

set_option autoImplicit false

namespace StatusRegistry

namespace Memory

/-- A store holds every record of another one, with nothing changed that is fixed. -/
structure Extends (m m' : Memory) : Prop where
  list : ∀ {l}, m.StoresList l → ∃ l', m'.StoresList l' ∧ l.Same l' ∧ l.used ≤ l'.used
  entry : ∀ {e}, m.StoresEntry e → ∃ e', m'.StoresEntry e' ∧ e.Same e'

theorem Extends.refl (m : Memory) : m.Extends m :=
  ⟨fun hl => ⟨_, hl, .refl _, UInt64.le_refl _⟩, fun he => ⟨_, he, .refl _⟩⟩

theorem Extends.trans {m m' m'' : Memory} (h : m.Extends m') (h' : m'.Extends m'') :
    m.Extends m'' := by
  constructor
  · intro l hl
    obtain ⟨l', hl', hsame, hle⟩ := h.list hl
    obtain ⟨l'', hl'', hsame', hle'⟩ := h'.list hl'
    exact ⟨l'', hl'', hsame.trans hsame', UInt64.le_trans hle hle'⟩
  · intro e he
    obtain ⟨e', he', hsame⟩ := h.entry he
    obtain ⟨e'', he'', hsame'⟩ := h'.entry he'
    exact ⟨e'', he'', hsame.trans hsame'⟩

/-! ## One operation -/

/-- The lists of a store after one of them was replaced. -/
theorem list_putList_of_same {m : Memory} {l l' : StatusList} (hl : m.StoresList l)
    (hsame : l.Same l') (hle : l.used ≤ l'.used) {o : StatusList} (ho : m.StoresList o) :
    ∃ o', (m.putList l').StoresList o' ∧ o.Same o' ∧ o.used ≤ o'.used := by
  by_cases hid : o.id = l'.id
  · have heq : o = l := ho.unique hl (hid.trans hsame.id_eq)
    exact ⟨l', storesList_putList.mpr (.inl rfl), heq ▸ hsame, heq ▸ hle⟩
  · exact ⟨o, storesList_putList.mpr (.inr ⟨hid, ho⟩), .refl o, UInt64.le_refl _⟩

theorem extends_putList {m : Memory} {l : StatusList} (hfresh : m.lists[l.id]? = none) :
    m.Extends (m.putList l) := by
  constructor
  · intro o ho
    refine ⟨o, storesList_putList.mpr (.inr ⟨?_, ho⟩), .refl o, UInt64.le_refl _⟩
    intro hid
    unfold StoresList at ho
    rw [hid, hfresh] at ho
    cases ho
  · intro e he
    exact ⟨e, he, .refl e⟩

theorem extends_withSettings {m : Memory} {stored : StatusList} (hstored : m.StoresList stored)
    (l : StatusList) : m.Extends (m.putList (Memory.withSettings stored l)) :=
  ⟨list_putList_of_same hstored (same_withSettings stored l) (UInt64.le_refl stored.used),
    fun he => ⟨_, he, .refl _⟩⟩

theorem extends_allotted {m : Memory} {l : StatusList} (hl : m.StoresList l)
    (hroom : l.used < l.capacity) {r : EntryRequest} {stamp : Stamp}
    (hfresh : m.entries[(⟨stamp.fresh⟩ : EntryId)]? = none) : m.Extends (m.allotted l r stamp) := by
  constructor
  · intro o ho
    apply list_putList_of_same hl (l.same_withSlotTaken stamp.now) _ ho
    apply UInt64.le_iff_toNat_le.mpr
    show l.used.toNat ≤ (l.used + 1).toNat
    rw [StatusList.toNat_used_succ hroom]
    exact Nat.le_succ _
  · intro e he
    exact ⟨e, (storesEntry_allotted hfresh).mpr (.inr he), .refl e⟩

theorem extends_marked {m : Memory} {l l' : StatusList} (hl : m.StoresList l) {e : StatusEntry}
    (he : m.StoresEntry e) {status : UInt32} {code : UInt8} {now : Timestamp}
    (hstored : l.Stored l' e.index status code now) : m.Extends (m.marked e l' code) :=
  ⟨list_putList_of_same hl hstored.same (by rw [hstored.used_eq]; exact UInt64.le_refl _),
    marked_of_same l' code he⟩

/-- **An operation only extends a store.** -/
theorem answer_extends {m : Memory} (h : m.Consistent) {stamp : Stamp} {q : StoreRequest}
    (hfresh : m.Fresh stamp.fresh q) : m.Extends (m.answer stamp q).2 := by
  have hchange := answer_change m stamp q
  generalize (m.answer stamp q).2 = m' at hchange ⊢
  cases hchange with
  | none => exact .refl m
  | list made =>
    obtain ⟨-, hid, -, -⟩ := StatusList.create_sound made
    apply extends_putList
    rw [hid]
    exact hfresh
  | settings found =>
    rename_i l stored
    rw [settings_eq_putList h found]
    exact extends_withSettings (h.storesList found) l
  | entry allots => exact extends_allotted (h.storesList allots.list_eq) allots.used_lt hfresh
  | status found list set =>
    obtain ⟨he, -, -⟩ := h.findEntry_eq_some_iff.mp found
    have hl := h.storesList list
    exact extends_marked hl he (StatusList.stored_of_setStatus (h.sound hl) set)

theorem Leads.extends {m m' : Memory} (h : m.Consistent) (hleads : Leads m m') : m.Extends m' := by
  induction hleads with
  | refl => exact .refl m
  | step stamp q leads fresh ih => exact ih.trans (answer_extends (leads.consistent h) fresh)

/-- The entry of a credential is found later, too. -/
theorem Consistent.findEntry_later {m m' : Memory} (hm : m.Consistent) {credential : CredentialId}
    {purpose : Purpose} {id : EntryId} (hkey : m.byCredential[(credential, purpose)]? = some id)
    (hleads : m.Leads m') : ∃ e, m'.findEntry credential purpose = some e := by
  obtain ⟨e, he, -, rfl, rfl⟩ := hm.byCredential_iff.mp hkey
  obtain ⟨e', he', hsame⟩ := (hleads.extends hm).entry he
  exact ⟨e', (hleads.consistent hm).findEntry_eq_some_iff.mpr
    ⟨he', hsame.credential_eq, hsame.purpose_eq⟩⟩

/-! ## Answers -/

/-- A store that makes an entry hands out the next slot of its list. -/
theorem createEntry_answer {m : Memory} {stamp : Stamp} {r : EntryRequest} {e : StatusEntry}
    (h : (m.answer stamp (.createEntry r)).1 = .ok e) :
    ∃ l, Allots m l r ∧ e = entryIn l r stamp ∧
      (m.answer stamp (.createEntry r)).2 = m.allotted l r stamp := by
  change (m.createEntry r stamp).1 = .ok e at h
  show ∃ l, Allots m l r ∧ e = entryIn l r stamp ∧
    (m.createEntry r stamp).2 = m.allotted l r stamp
  unfold createEntry at h ⊢
  split
  · rename_i hplan
    rw [hplan] at h
    cases h
  · rename_i e₀ l' hplan
    rw [hplan] at h
    cases h
    obtain ⟨l, hallots, rfl, rfl⟩ := planEntry_eq_ok_iff.mp hplan
    exact ⟨l, hallots, rfl, rfl⟩

/-- A store that makes no entry is left as it is. -/
theorem createEntry_answer_error {m : Memory} {stamp : Stamp} {r : EntryRequest} {err : StoreError}
    (h : (m.answer stamp (.createEntry r)).1 = .error err) :
    (m.answer stamp (.createEntry r)).2 = m := by
  change (m.createEntry r stamp).1 = .error err at h
  show (m.createEntry r stamp).2 = m
  unfold createEntry at h ⊢
  split
  · rfl
  · rename_i hplan
    rw [hplan] at h
    cases h

/-- A store refuses an entry for a slot that its list has offered only if the list has filled up
since, or the credential has an entry. -/
theorem createEntry_cases {m : Memory} {l : StatusList} {r : EntryRequest}
    (hl : m.StoresList l) (hlist : r.list = l.id) (hpurpose : l.purpose = r.purpose)
    (hwidth : l.width = r.width) (hindex : r.index ≤ l.used) (stamp : Stamp) :
    (∃ e, (m.answer stamp (.createEntry r)).1 = .ok e) ∨
      ((m.answer stamp (.createEntry r)).1 = .error (.listFull l.id) ∧ l.hasRoom = false) ∨
      ((m.answer stamp (.createEntry r)).1 = .error (.duplicate r.credential r.purpose) ∧
        ∃ id, m.byCredential[(r.credential, r.purpose)]? = some id) := by
  show (∃ e, (m.createEntry r stamp).1 = .ok e) ∨
    ((m.createEntry r stamp).1 = .error (.listFull l.id) ∧ l.hasRoom = false) ∨
    ((m.createEntry r stamp).1 = .error (.duplicate r.credential r.purpose) ∧
      ∃ id, m.byCredential[(r.credential, r.purpose)]? = some id)
  have hfound : m.lists[r.list]? = some l := by
    rw [hlist]
    exact hl
  cases hroom : l.hasRoom with
  | false =>
    have hcheck : checkAllocation l r = .error (.listFull l.id) := by
      unfold checkAllocation
      rw [if_neg (by simp [hpurpose, hwidth]), if_pos (by simp [hroom])]
    have hplan : m.planEntry r stamp = .error (.listFull l.id) := by
      unfold planEntry allocate
      simp only [hfound, hcheck]
    refine .inr (.inl ⟨?_, rfl⟩)
    unfold createEntry
    rw [hplan]
  | true =>
    have hlt : l.used < l.capacity := of_decide_eq_true hroom
    cases hkey : m.byCredential[(r.credential, r.purpose)]? with
    | none =>
      have hplan : m.planEntry r stamp = .ok (entryIn l r stamp, l.withSlotTaken stamp.now) :=
        planEntry_eq_ok_iff.mpr ⟨l, ⟨hfound, hpurpose, hwidth, hlt, hindex, hkey⟩, rfl, rfl⟩
      refine .inl ⟨entryIn l r stamp, ?_⟩
      unfold createEntry
      rw [hplan]
    | some id =>
      have hallocate : allocate l r stamp = .ok (entryIn l r stamp, l.withSlotTaken stamp.now) :=
        allocate_eq_ok_iff.mpr ⟨checkAllocation_eq_ok_iff.mpr ⟨hpurpose, hwidth, hlt, hindex⟩,
          rfl, rfl⟩
      have hcontains : m.byCredential.contains (r.credential, r.purpose) = true := by
        rw [Std.HashMap.contains_eq_isSome_getElem?, hkey]
        rfl
      have hplan : m.planEntry r stamp = .error (.duplicate r.credential r.purpose) := by
        unfold planEntry
        simp only [hfound, hallocate, hcontains, if_true]
      refine .inr (.inr ⟨?_, id, rfl⟩)
      unfold createEntry
      rw [hplan]

theorem createList_answer {m : Memory} {stamp : Stamp} {r : ListRequest} {l : StatusList}
    (h : (m.answer stamp (.createList r)).1 = .ok l) :
    StatusList.create r ⟨stamp.fresh⟩ stamp.now = .ok l ∧
      (m.answer stamp (.createList r)).2 = m.putList l := by
  change (m.createList r stamp).1 = .ok l at h
  show _ ∧ (m.createList r stamp).2 = m.putList l
  unfold createList at h ⊢
  split
  · rename_i hmade
    rw [hmade] at h
    cases h
  · rename_i l' hmade
    rw [hmade] at h
    cases h
    exact ⟨hmade, rfl⟩

end Memory

end StatusRegistry

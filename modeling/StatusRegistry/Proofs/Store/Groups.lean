import StatusRegistry.Proofs.Store.History

/-!
# The lists of one group

What assignments see of a group: under which identifiers its lists are stored, how many slots each
has, and how many of them are used.  Whatever is done elsewhere leaves all of it as it is, and so
does a change of settings or of a status in the group itself.

* `Memory.slots`, `Memory.groupIds`: the slots of the lists of a group, and their identifiers;
* `StoreRequest.Spares`: an operation makes no list of a group, takes no slot of one, and gives none
  of the credentials that are kept for the group its entry;
* `Memory.untouched_answer`: such an operation leaves a group untouched.
-/

set_option autoImplicit false

namespace StatusRegistry

/-- A group: all lists of one issuer, purpose and width. -/
structure Group where
  issuer : IssuerId
  purpose : Purpose
  width : SlotWidth
  deriving DecidableEq

namespace StatusList

/-- The group of a list. -/
def group (l : StatusList) : Group := ⟨l.issuer, l.purpose, l.width⟩

theorem inGroup_iff {l : StatusList} {g : Group} :
    l.inGroup g.issuer g.purpose g.width = true ↔ l.group = g := by
  cases g
  simp [inGroup, group, and_assoc]

theorem Same.group_eq {l l' : StatusList} (h : l.Same l') : l'.group = l.group := by
  simp only [group, h.issuer_eq, h.purpose_eq, h.width_eq]

/-- The slots of a list as a group sees them: how many there are, and how many are used. -/
def slotsIn (l : StatusList) (g : Group) : Option (UInt64 × UInt64) :=
  if l.group = g then some (l.capacity, l.used) else none

theorem slotsIn_eq_some_iff {l : StatusList} {g : Group} {capacity used : UInt64} :
    l.slotsIn g = some (capacity, used) ↔
      l.group = g ∧ l.capacity = capacity ∧ l.used = used := by
  simp [slotsIn]

theorem Same.slotsIn_eq {l l' : StatusList} (h : l.Same l') (hused : l'.used = l.used)
    (g : Group) : l'.slotsIn g = l.slotsIn g := by
  simp only [slotsIn, h.group_eq, h.capacity_eq, hused]

end StatusList

/-- A request asks for a list of a group. -/
def ListRequest.InGroup (r : ListRequest) (g : Group) : Prop :=
  r.issuer = g.issuer ∧ r.purpose = g.purpose ∧ SlotWidth.ofRequest r.width = .ok g.width

/-- A list that is made is one of a group iff it was asked for there. -/
theorem StatusList.group_create {r : ListRequest} {id : ListId} {now : Timestamp} {l : StatusList}
    (h : StatusList.create r id now = .ok l) {g : Group} : l.group = g ↔ r.InGroup g := by
  obtain ⟨p, hp, rfl⟩ := StatusList.create_eq_ok h
  have hwidth := (StatusList.plan_eq_ok hp).1
  cases g
  simp [StatusList.group, ListRequest.InGroup, hwidth]

namespace Memory

variable {m m' m'' : Memory} {g : Group}

/-! ## Slots -/

/-- The slots of the lists of a group: how many each has, and how many of them are used. -/
def slots (m : Memory) (g : Group) (id : ListId) : Option (UInt64 × UInt64) :=
  (m.lists[id]?).bind fun l => l.slotsIn g

/-- The identifiers of the lists of a group. -/
def groupIds (m : Memory) (g : Group) : List ListId :=
  m.lists.keys.filter fun id => (m.slots g id).isSome

theorem slots_eq_some_iff {id : ListId} {capacity used : UInt64} :
    m.slots g id = some (capacity, used) ↔
      ∃ l, m.lists[id]? = some l ∧ l.group = g ∧ l.capacity = capacity ∧ l.used = used := by
  simp only [slots, Option.bind_eq_some_iff, StatusList.slotsIn_eq_some_iff]

theorem StoresList.slots_eq {l : StatusList} (hl : m.StoresList l) (hgroup : l.group = g) :
    m.slots g l.id = some (l.capacity, l.used) :=
  slots_eq_some_iff.mpr ⟨l, hl, hgroup, rfl, rfl⟩

/-- A list of a group is one whose slots the group sees. -/
theorem isSome_slots_iff {id : ListId} :
    (m.slots g id).isSome ↔ ∃ l, m.lists[id]? = some l ∧ l.group = g := by
  simp [slots, StatusList.slotsIn, Option.isSome_bind, Option.any_eq_true]

theorem mem_groupIds {id : ListId} :
    id ∈ m.groupIds g ↔ ∃ l, m.lists[id]? = some l ∧ l.group = g := by
  rw [groupIds, List.mem_filter, isSome_slots_iff, Std.HashMap.mem_keys, and_iff_right_iff_imp]
  rintro ⟨l, hl, -⟩
  exact Std.HashMap.mem_iff_isSome_getElem?.mpr (by rw [hl]; rfl)

/-- The number of lists of a group. -/
theorem length_groupIds {ids : List ListId} (hnodup : ids.Nodup)
    (hids : ∀ id, id ∈ ids ↔ (m.slots g id).isSome) : (m.groupIds g).length = ids.length := by
  refine ((List.perm_ext_iff_of_nodup (m.lists.nodup_keys.filter _) hnodup).mpr ?_).length_eq
  intro id
  rw [hids, isSome_slots_iff]
  exact mem_groupIds

theorem slots_putList (m : Memory) (l : StatusList) (g : Group) (id : ListId) :
    (m.putList l).slots g id = if l.id = id then l.slotsIn g else m.slots g id := by
  unfold slots
  by_cases hid : l.id = id
  · rw [if_pos hid, ← hid, putList_lists_self]
    rfl
  · rw [if_neg hid, putList_lists_of_ne hid]

/-- A list in the place of another one is seen by a group as that one was. -/
theorem slots_putList_of_eq {l l' : StatusList} (hl : m.StoresList l) (hid : l'.id = l.id)
    (hslots : l'.slotsIn g = l.slotsIn g) : (m.putList l').slots g = m.slots g := by
  funext id
  rw [slots_putList]
  by_cases h : l'.id = id
  · rw [if_pos h, hslots, ← h, hid, slots, hl]
    rfl
  · rw [if_neg h]

/-! ## Operations elsewhere -/

/-- What assignments rely on in a group stays as it is: the slots of its lists, and which of the
credentials that are kept for it have no entry yet. -/
structure Untouched (g : Group) (kept : List CredentialId) (m m' : Memory) : Prop where
  leads : m.Leads m'
  slots_eq : m'.slots g = m.slots g
  keys_eq : ∀ x ∈ kept, m'.byCredential[(x, g.purpose)]? = m.byCredential[(x, g.purpose)]?

variable {kept : List CredentialId}

theorem Untouched.refl (g : Group) (kept : List CredentialId) (m : Memory) :
    Untouched g kept m m :=
  ⟨.refl, rfl, fun _ _ => rfl⟩

theorem Untouched.trans (h : Untouched g kept m m') (h' : Untouched g kept m' m'') :
    Untouched g kept m m'' :=
  ⟨h.leads.trans h'.leads, h'.slots_eq.trans h.slots_eq,
    fun x hx => (h'.keys_eq x hx).trans (h.keys_eq x hx)⟩

end Memory

/-- An operation makes no list of a group, takes no slot of one, and gives no entry for the purpose
of the group to a credential that is kept for it. -/
def StoreRequest.Spares (g : Group) (kept : List CredentialId) (m : Memory) : StoreRequest → Prop
  | .createList r => ¬ r.InGroup g
  | .createEntry r => (∀ l, m.lists[r.list]? = some l → l.group ≠ g) ∧
      ¬ (r.credential ∈ kept ∧ r.purpose = g.purpose)
  | _ => True

/-- An operation makes neither a list nor an entry: it reads, it stores settings, or it changes a
status. -/
def StoreRequest.Quiet : StoreRequest → Prop
  | .createList _ => False
  | .createEntry _ => False
  | _ => True

theorem StoreRequest.Quiet.spares {q : StoreRequest} (h : q.Quiet) (g : Group)
    (kept : List CredentialId) (m : Memory) : q.Spares g kept m := by
  cases q with
  | createList r => exact h.elim
  | createEntry r => exact h.elim
  | _ => trivial

theorem StoreRequest.Quiet.fresh {q : StoreRequest} (h : q.Quiet) (m : Memory) (fresh : Uuid) :
    m.Fresh fresh q := by
  cases q with
  | createList r => exact h.elim
  | createEntry r => exact h.elim
  | _ => trivial

namespace Memory

variable {m : Memory} {g : Group} {kept : List CredentialId}

/-- A new entry in a list of another group takes no slot of a group. -/
theorem slots_allotted {l : StatusList} (hl : m.StoresList l) (hgroup : l.group ≠ g)
    (r : EntryRequest) (stamp : Stamp) : (m.allotted l r stamp).slots g = m.slots g := by
  have hslots : (l.withSlotTaken stamp.now).slotsIn g = l.slotsIn g := by
    simp only [StatusList.slotsIn, (l.same_withSlotTaken stamp.now).group_eq, if_neg hgroup]
  exact slots_putList_of_eq hl rfl hslots

theorem keys_allotted {r : EntryRequest} {x : CredentialId} {purpose : Purpose}
    (h : ¬ (r.credential = x ∧ r.purpose = purpose)) (l : StatusList) (stamp : Stamp) :
    (m.allotted l r stamp).byCredential[(x, purpose)]? = m.byCredential[(x, purpose)]? := by
  apply index_byCredential_of_ne (e := entryIn l r stamp)
  intro heq
  exact h (Prod.mk.inj heq)

/-- **An operation elsewhere leaves a group untouched.** -/
theorem untouched_answer (hm : m.Consistent) {stamp : Stamp} {q : StoreRequest}
    (hfresh : m.Fresh stamp.fresh q) (hspares : q.Spares g kept m) :
    Untouched g kept m (m.answer stamp q).2 := by
  suffices h : (m.answer stamp q).2.slots g = m.slots g ∧ ∀ x ∈ kept,
      (m.answer stamp q).2.byCredential[(x, g.purpose)]? = m.byCredential[(x, g.purpose)]? from
    ⟨.step stamp q .refl hfresh, h.1, h.2⟩
  have hchange := answer_change m stamp q
  generalize (m.answer stamp q).2 = m' at hchange ⊢
  cases hchange with
  | none => exact ⟨rfl, fun _ _ => rfl⟩
  | list made =>
    obtain ⟨-, hid, -, -⟩ := StatusList.create_sound made
    refine ⟨?_, fun _ _ => rfl⟩
    funext id
    rw [slots_putList]
    split
    · rename_i l heq
      have hother : l.group ≠ g := fun h => hspares ((StatusList.group_create made).mp h)
      rw [StatusList.slotsIn, if_neg hother, slots, ← heq, hid]
      rw [show m.lists[(⟨stamp.fresh⟩ : ListId)]? = none from hfresh]
      rfl
    · rfl
  | settings found =>
    rename_i l stored
    rw [settings_eq_putList hm found]
    exact ⟨slots_putList_of_eq (hm.storesList found) rfl
      ((same_withSettings stored l).slotsIn_eq rfl g), fun _ _ => rfl⟩
  | entry allots =>
    refine ⟨slots_allotted (hm.storesList allots.list_eq) (hspares.1 _ allots.list_eq) _ _, ?_⟩
    intro x hx
    apply keys_allotted
    rintro ⟨rfl, hpurpose⟩
    exact hspares.2 ⟨hx, hpurpose⟩
  | status found list set =>
    have hl := hm.storesList list
    have hstored := StatusList.stored_of_setStatus (hm.sound hl) set
    exact ⟨slots_putList_of_eq hl hstored.same.id_eq
      (hstored.same.slotsIn_eq hstored.used_eq g), fun _ _ => rfl⟩

end Memory

end StatusRegistry

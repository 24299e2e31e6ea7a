import StatusRegistry.Proofs.Service.Contention
import StatusRegistry.Proofs.Store.Groups

/-!
# The choice of a list

Which list of a group takes the next slot.  The table of lists has no order of its own, and times
are equal more often than not; as identifiers differ, there is one first list all the same.

* `StatusList.firstIn`: the search through a table whose rows come in some order;
* `Consistent.firstIn_eq`: every order of the rows leads to the same list;
* `alone_createList_iff`: a list that is made on demand, without others;
* `findOrCreate_chooses_first`: the first list with room is found and nothing is stored, or all are
  full and one new list is stored.
-/

set_option autoImplicit false

namespace StatusRegistry

/-! ## Any order of the table -/

namespace StatusList

/-- The first list of a group that has room, among rows that come in some order. -/
def firstIn (g : Group) (rows : List (ListId × StatusList)) : Option StatusList :=
  rows.foldl (fun best row =>
    if row.2.inGroup g.issuer g.purpose g.width && row.2.hasRoom then first best row.2 else best)
    none

/-- There is one first list if different lists have different identifiers. -/
theorem IsFirst.unique {p : StatusList → Prop} {best best' : Option StatusList}
    (h : IsFirst p best) (h' : IsFirst p best')
    (hid : ∀ l l', p l → p l' → l.id = l'.id → l = l') : best = best' := by
  cases best with
  | none =>
    cases best' with
    | none => rfl
    | some b' => exact absurd h'.1 (h b')
  | some b =>
    cases best' with
    | none => exact absurd h.1 (h' b)
    | some b' =>
      exact congrArg some (hid b b' h.1 h'.1 (eq_of_not_before (h'.2 b h.1) (h.2 b' h'.1)))

/-- Of two lists with different identifiers, either one is before the other one. -/
theorem before_iff_not_before {a b : StatusList} (hne : a.id ≠ b.id) :
    a.before b = true ↔ b.before a = false := by
  constructor
  · intro hab
    rw [← Bool.not_eq_true]
    intro hba
    have haa := before_trans hab hba
    rw [before_irrefl] at haa
    cases haa
  · intro hba
    rw [← Bool.not_eq_false]
    exact fun hab => hne (eq_of_not_before hab hba)

theorem before_eq_true_iff {a b : StatusList} :
    a.before b = true ↔ a.createdAt < b.createdAt ∨
      a.createdAt = b.createdAt ∧ a.id.uuid.toNat < b.id.uuid.toNat := by
  simp only [before, Bool.or_eq_true, Bool.and_eq_true, decide_eq_true_eq]

end StatusList

namespace Memory

variable {m : Memory} {g : Group}

theorem Consistent.isFirst_firstIn (h : m.Consistent) {rows : List (ListId × StatusList)}
    (hrows : rows.Perm m.lists.toList) :
    StatusList.IsFirst (m.Available g.issuer g.purpose g.width) (StatusList.firstIn g rows) := by
  have hnone : StatusList.IsFirst (fun _ => False) none := fun _ h => h
  refine (StatusList.isFirst_foldl (fun l => l.inGroup g.issuer g.purpose g.width && l.hasRoom)
    hnone).congr fun l => ?_
  have hrow : ∀ id, (id, l) ∈ rows ↔ m.lists[id]? = some l := fun id =>
    hrows.mem_iff.trans Std.HashMap.mem_toList_iff_getElem?_eq_some
  simp only [false_or, Bool.and_eq_true, hrow]
  constructor
  · rintro ⟨⟨hgroup, hroom⟩, id, hid⟩
    exact ⟨h.storesList hid, hgroup, hroom⟩
  · rintro ⟨hstored, hgroup, hroom⟩
    exact ⟨⟨hgroup, hroom⟩, l.id, hstored⟩

/-- **Every order of the table leads to the list that is offered.** -/
theorem Consistent.firstIn_eq (h : m.Consistent) {rows : List (ListId × StatusList)}
    (hrows : rows.Perm m.lists.toList) :
    StatusList.firstIn g rows = m.findAvailable g.issuer g.purpose g.width :=
  (h.isFirst_firstIn hrows).unique (h.isFirst_findAvailable _ _ _)
    fun _ _ hl hl' hid => hl.stored.unique hl'.stored hid

/-- A list may be offered for a group iff it is one of the group and has room. -/
theorem available_iff {l : StatusList} :
    m.Available g.issuer g.purpose g.width l ↔
      m.StoresList l ∧ l.group = g ∧ l.used < l.capacity := by
  rw [← StatusList.inGroup_iff, ← StatusList.hasRoom_iff]
  exact ⟨fun h => ⟨h.stored, h.inGroup, h.hasRoom⟩, fun h => ⟨h.1, h.2.1, h.2.2⟩⟩

/-- A list is offered iff one of the group has room. -/
theorem Consistent.exists_findAvailable_iff (h : m.Consistent) :
    (∃ l, m.findAvailable g.issuer g.purpose g.width = some l) ↔
      ∃ l, m.StoresList l ∧ l.group = g ∧ l.used < l.capacity := by
  have hnone : m.findAvailable g.issuer g.purpose g.width = none ↔
      ∀ l, ¬m.Available g.issuer g.purpose g.width l := h.findAvailable_eq_none_iff
  simp only [available_iff] at hnone
  rw [← Option.isSome_iff_exists, ← Option.ne_none_iff_isSome, Ne, hnone]
  simp only [not_forall, not_not]

/-- The list that is offered is before all others that might be. -/
theorem Consistent.findAvailable_iff_first (h : m.Consistent) {l : StatusList} :
    m.findAvailable g.issuer g.purpose g.width = some l ↔
      (m.StoresList l ∧ l.group = g ∧ l.used < l.capacity) ∧
        ∀ l', m.StoresList l' → l'.group = g → l'.used < l'.capacity → l' ≠ l →
          l.createdAt < l'.createdAt ∨
            l.createdAt = l'.createdAt ∧ l.id.uuid.toNat < l'.id.uuid.toNat := by
  simp only [h.findAvailable_eq_some_iff, available_iff]
  refine and_congr_right fun hl => ?_
  have hid : ∀ l', m.StoresList l' → l' ≠ l → l.id ≠ l'.id := fun l' hl' hne heq =>
    hne (hl'.unique hl.1 heq.symm)
  constructor
  · intro hleast l' hl' hgroup hroom hne
    rw [← StatusList.before_eq_true_iff, StatusList.before_iff_not_before (hid l' hl' hne)]
    exact hleast l' ⟨hl', hgroup, hroom⟩
  · rintro hleast l' ⟨hl', hgroup, hroom⟩
    by_cases heq : l' = l
    · rw [heq]
      exact StatusList.before_irrefl l
    · rw [← StatusList.before_iff_not_before (hid l' hl' heq), StatusList.before_eq_true_iff]
      exact hleast l' hl' hgroup hroom heq

/-- A store holds one list more than another one, and nothing else has changed. -/
structure Gains (m m' : Memory) (l : StatusList) : Prop where
  new : m.lists[l.id]? = none
  stored : m'.lists[l.id]? = some l
  others : ∀ id, id ≠ l.id → m'.lists[id]? = m.lists[id]?
  entries_eq : m'.entries = m.entries
  byCredential_eq : m'.byCredential = m.byCredential

/-- A list that can be made is stored. -/
theorem createList_eq (m : Memory) {r : ListRequest} {stamp : Stamp} {l : StatusList}
    (h : StatusList.create r ⟨stamp.fresh⟩ stamp.now = .ok l) :
    m.answer stamp (.createList r) = (.ok l, m.putList l) := by
  show m.createList r stamp = _
  unfold createList
  rw [h]

theorem gains_putList {l : StatusList} (hnew : m.lists[l.id]? = none) :
    m.Gains (m.putList l) l :=
  ⟨hnew, putList_lists_self m l, fun _ hid => putList_lists_of_ne hid.symm m, rfl, rfl⟩

end Memory

/-! ## Without others -/

namespace Service

variable {c : Config} {m m' : Memory} {g : Group} {r : Except ServiceError StatusList}

/-- The list that is made for a group on demand. -/
theorem create_of_valid (hc : c.Valid) (g : Group) (stamp : Stamp) :
    ∃ l, StatusList.create (withDefaults c (groupRequest g.issuer g.purpose g.width))
        ⟨stamp.fresh⟩ stamp.now = .ok l ∧
      l.id = ⟨stamp.fresh⟩ ∧ l.group = g ∧ l.used = 0 ∧ l.capacity = c.capacity := by
  obtain ⟨ttl, hplan⟩ := plan_of_valid hc g.issuer g.purpose g.width
  unfold StatusList.create
  rw [hplan]
  exact ⟨_, rfl, rfl, rfl, rfl, rfl⟩

/-- A list that is made on demand, without others, is the one that the store makes. -/
theorem alone_createList_iff (hc : c.Valid) :
    Alone (createList c (groupRequest g.issuer g.purpose g.width)).run m m' r ↔
      ∃ (stamp : Stamp) (l : StatusList), m.lists[(⟨stamp.fresh⟩ : ListId)]? = none ∧
        StatusList.create (withDefaults c (groupRequest g.issuer g.purpose g.width))
          ⟨stamp.fresh⟩ stamp.now = .ok l ∧ m' = m.putList l ∧ r = .ok l := by
  obtain ⟨ttl, hplan⟩ := plan_of_valid hc g.issuer g.purpose g.width
  constructor
  · rintro ⟨turns, hplays, halone⟩
    obtain ⟨before, stamp, -, hfresh, rfl, rfl, rfl⟩ :=
      plays_ask_iff.mp ((plays_check_bind_iff hplan).mp hplays)
    obtain rfl : before = m := halone.1
    obtain ⟨l, hcreate, -⟩ := create_of_valid hc g stamp
    have hanswer := before.createList_eq hcreate
    exact ⟨stamp, l, hfresh, hcreate, congrArg Prod.snd hanswer, by rw [hanswer]; rfl⟩
  · rintro ⟨stamp, l, hfresh, hcreate, rfl, rfl⟩
    have hanswer := m.createList_eq hcreate
    have hmake : Alone (ofStore (.ask (.createList (withDefaults c
        (groupRequest g.issuer g.purpose g.width))) fun answer => .done answer)).run m
        (m.answer stamp _).2 (.ok l) := alone_ask hfresh (congrArg Prod.fst hanswer)
    rw [hanswer] at hmake
    exact alone_check_bind hplan hmake

/-- Without others, the list that is offered is taken, or one is made. -/
theorem alone_findOrCreate_iff :
    Alone (findOrCreate c g.issuer g.purpose g.width).run m m' r ↔
      (∃ l, m.findAvailable g.issuer g.purpose g.width = some l ∧ m' = m ∧ r = .ok l) ∨
        m.findAvailable g.issuer g.purpose g.width = none ∧
          Alone (createList c (groupRequest g.issuer g.purpose g.width)).run m m' r := by
  constructor
  · rintro ⟨turns, hplays, halone⟩
    obtain ⟨before, stamp, rest, -, rfl, hrest⟩ :=
      (plays_read_bind_iff (reads_findAvailable g.issuer g.purpose g.width)).mp hplays
    obtain ⟨rfl, halone⟩ := halone
    cases hfound : before.findAvailable g.issuer g.purpose g.width with
    | some l =>
      rw [hfound] at hrest
      obtain ⟨-, rfl, rfl⟩ := plays_pure_iff.mp hrest
      exact .inl ⟨l, rfl, rfl, rfl⟩
    | none =>
      rw [hfound] at hrest
      exact .inr ⟨rfl, rest, hrest, halone⟩
  · have hread := alone_read (m := m) (reads_findAvailable g.issuer g.purpose g.width)
      ⟨⟨.epoch⟩, .nil⟩
    rintro (⟨l, hfound, rfl, rfl⟩ | ⟨hfound, hmake⟩)
    · refine alone_bind hread ?_
      rw [hfound]
      exact alone_pure
    · refine alone_bind hread ?_
      rw [hfound]
      exact hmake

/-- Which list of a group a store and the service choose. -/
structure ChoosesFirst (c : Config) (m : Memory) (g : Group) : Prop where
  /-- The order in which the table is gone through makes no difference. -/
  any_order : ∀ rows, rows.Perm m.lists.toList →
    StatusList.firstIn g rows = m.findAvailable g.issuer g.purpose g.width
  /-- A list is offered iff one of the group has room. -/
  offered_iff : (∃ l, m.findAvailable g.issuer g.purpose g.width = some l) ↔
    ∃ l, m.StoresList l ∧ l.group = g ∧ l.used < l.capacity
  /-- It is the one of them that was made before all others, or at the same time as others but with
  the least identifier. -/
  first : ∀ l, m.findAvailable g.issuer g.purpose g.width = some l ↔
    (m.StoresList l ∧ l.group = g ∧ l.used < l.capacity) ∧
      ∀ l', m.StoresList l' → l'.group = g → l'.used < l'.capacity → l' ≠ l →
        l.createdAt < l'.createdAt ∨
          l.createdAt = l'.createdAt ∧ l.id.uuid.toNat < l'.id.uuid.toNat
  /-- The service takes the list that is offered, and nothing is stored. -/
  takes : ∀ l, m.findAvailable g.issuer g.purpose g.width = some l → ∀ m' r,
    Alone (findOrCreate c g.issuer g.purpose g.width).run m m' r ↔ m' = m ∧ r = .ok l
  /-- If there is none, it makes one of the group, and nothing else is stored. -/
  makes : m.findAvailable g.issuer g.purpose g.width = none → ∀ m' r,
    Alone (findOrCreate c g.issuer g.purpose g.width).run m m' r →
      ∃ l, r = .ok l ∧ l.group = g ∧ l.used = 0 ∧ l.capacity = c.capacity ∧ m.Gains m' l
  /-- And it does make one, with any identifier that is new to the store. -/
  succeeds : ∀ stamp : Stamp, m.lists[(⟨stamp.fresh⟩ : ListId)]? = none →
    ∃ m' l, Alone (findOrCreate c g.issuer g.purpose g.width).run m m' (.ok l)

/-- **The first list of a group that has room takes the next slot, whatever the order of the table
is, and a list is made only if there is none.** -/
theorem findOrCreate_chooses_first {c : Config} (hc : c.Valid) {m : Memory} (hm : m.Reachable)
    (g : Group) : ChoosesFirst c m g := by
  have h := hm.consistent
  refine ⟨fun rows hrows => h.firstIn_eq hrows, h.exists_findAvailable_iff,
    fun l => h.findAvailable_iff_first, ?_, ?_, ?_⟩
  · intro l hfound m' r
    rw [alone_findOrCreate_iff, hfound]
    simp
  · intro hfound m' r halone
    rcases alone_findOrCreate_iff.mp halone with ⟨l, hl, -⟩ | ⟨-, hmake⟩
    · rw [hfound] at hl
      cases hl
    · obtain ⟨stamp, l, hnew, hcreate, rfl, rfl⟩ := (alone_createList_iff hc).mp hmake
      obtain ⟨l', hcreate', hid, hgroup, hused, hcapacity⟩ := create_of_valid hc g stamp
      obtain rfl : l' = l := Except.ok.inj (hcreate'.symm.trans hcreate)
      rw [← hid] at hnew
      exact ⟨l', rfl, hgroup, hused, hcapacity, Memory.gains_putList hnew⟩
  · intro stamp hnew
    cases hfound : m.findAvailable g.issuer g.purpose g.width with
    | some l => exact ⟨m, l, alone_findOrCreate_iff.mpr (.inl ⟨l, hfound, rfl, rfl⟩)⟩
    | none =>
      obtain ⟨l, hcreate, -⟩ := create_of_valid hc g stamp
      have hmake := (alone_createList_iff hc).mpr ⟨stamp, l, hnew, hcreate, rfl, rfl⟩
      exact ⟨m.putList l, l, alone_findOrCreate_iff.mpr (.inr ⟨hfound, hmake⟩)⟩

/-! ## Two lists that were made at one time -/

namespace Sample

open Memory.Sample

/-- The list of the sample store under another identifier. -/
def numbered (number : BitVec 128) : StatusList := { list with id := ⟨⟨number⟩⟩ }

/-- The store with two lists of a group, made at one time, the one with the greater identifier
first. -/
def twoLists : Memory := (Memory.empty.putList (numbered 5)).putList (numbered 4)

theorem twoLists_reachable : twoLists.Reachable := by
  have hfive : (Memory.empty.putList (numbered 5)).Reachable :=
    .step (stamp 5) (.createList (.simple issuer .revocation)) .refl (Memory.empty_lists _)
  refine .step (stamp 4) (.createList (.simple issuer .revocation)) hfive ?_
  exact (Memory.putList_lists_of_ne (by decide) _).trans (Memory.empty_lists _)

theorem storesList_twoLists {l : StatusList} (hl : twoLists.StoresList l) :
    l = numbered 4 ∨ l = numbered 5 := by
  rcases Memory.storesList_putList.mp hl with rfl | ⟨-, hl⟩
  · exact .inl rfl
  · rcases Memory.storesList_putList.mp hl with rfl | ⟨-, hl⟩
    · exact .inr rfl
    · exact absurd ((Memory.empty_lists l.id).symm.trans hl) (by rintro ⟨⟩)

end Sample

/-- Of two lists that were made at one time the one with the lesser identifier takes the next slot;
for another purpose a list is made. -/
theorem sample_chooses_first :
    (∀ m' r, Alone (findOrCreate .default Memory.Sample.issuer .revocation .one).run
      Sample.twoLists m' r ↔ m' = Sample.twoLists ∧ r = .ok (Sample.numbered 4)) ∧
    ∃ m' l, Alone (findOrCreate .default Memory.Sample.issuer .suspension .one).run
      Sample.twoLists m' (.ok l) ∧ Sample.twoLists.Gains m' l := by
  constructor
  · have h := findOrCreate_chooses_first Config.default_valid Sample.twoLists_reachable
      ⟨Memory.Sample.issuer, .revocation, .one⟩
    refine h.takes _ ((h.first _).mpr ⟨⟨Memory.putList_lists_self _ _, rfl, by decide⟩, ?_⟩)
    intro l hl _ _ hne
    rcases Sample.storesList_twoLists hl with rfl | rfl
    · exact absurd rfl hne
    · exact .inr ⟨rfl, by decide⟩
  · have h := findOrCreate_chooses_first Config.default_valid Sample.twoLists_reachable
      ⟨Memory.Sample.issuer, .suspension, .one⟩
    have hnew : Sample.twoLists.lists[(⟨⟨6⟩⟩ : ListId)]? = none :=
      (Memory.putList_lists_of_ne (by decide) _).trans
        ((Memory.putList_lists_of_ne (by decide) _).trans (Memory.empty_lists _))
    have hnone : Sample.twoLists.findAvailable Memory.Sample.issuer .suspension .one = none := by
      rw [← Option.not_isSome_iff_eq_none, Option.isSome_iff_exists, h.offered_iff]
      rintro ⟨l, hl, hgroup, -⟩
      rcases Sample.storesList_twoLists hl with rfl | rfl <;> cases hgroup
    obtain ⟨m', l, halone⟩ := h.succeeds (Memory.Sample.stamp 6) hnew
    obtain ⟨l', heq, -, -, -, hgains⟩ := h.makes hnone m' _ halone
    cases heq
    exact ⟨m', l, halone, hgains⟩

end Service

end StatusRegistry

import StatusRegistry.Proofs.Service.Assignment
import StatusRegistry.Proofs.Service.Attempts
import StatusRegistry.Proofs.Service.Turns

/-!
# Assignments that meet others

Giving a credential its slot in a store in memory, with any operations of others between the turns
of the call.  Lists stay, their groups stay, and their used slots only grow, so all that can come
between is that a list fills up after it was chosen.

* `Memory.Ready`: a list that an assignment may use, which stays one until it is full;
* `FilledUp`: every list that was chosen was full when it was needed;
* `plays_chooseSlot`, `plays_attempt`, `plays_attempts`: one lemma for each service;
* `TakesOnly`, `alone_attempt`, `alone_assign`: services that are left alone;
* `assign_reliable`: an assignment gives up only after 32 attempts of which each lost its lists to
  others, and without others it succeeds in the first one.
-/

set_option autoImplicit false

namespace StatusRegistry

open Service (Assignment)

/-- The lists that are made on demand have a capacity and a lifetime that a list may have. -/
structure Config.Valid (c : Config) : Prop where
  minCapacity_le : minCapacity ≤ c.capacity
  le_maxCapacity : c.capacity ≤ maxCapacity
  ttl_nonneg : ∀ ms, c.ttl = some ms → 0 ≤ ms.toInt
  ttl_le : ∀ ms, c.ttl = some ms → ms.toInt ≤ maxTtl.toNat

theorem Config.default_valid : Config.default.Valid :=
  ⟨UInt64.le_refl _, by decide, by rintro ms ⟨⟩, by rintro ms ⟨⟩⟩

/-! ## Lists made on demand -/

theorem planCapacity_of_valid {c : Config} (hc : c.Valid) :
    planCapacity (some c.capacity) = .ok c.capacity := by
  unfold planCapacity
  simp only [Option.getD_some]
  rw [if_neg (UInt64.not_lt.mpr hc.minCapacity_le), if_neg (UInt64.not_lt.mpr hc.le_maxCapacity)]

theorem planTtl_of_valid {c : Config} (hc : c.Valid) : ∃ ttl, planTtl c.ttl = .ok ttl := by
  obtain ⟨ttl, httl, -⟩ := StatusList.planTtl_ok fun ms hms =>
    ⟨hc.ttl_nonneg ms hms, hc.ttl_le ms hms⟩
  exact ⟨ttl, httl⟩

/-- A request for a list of a group comes to a plan of its width. -/
theorem plan_of_valid {c : Config} (hc : c.Valid) (issuer : IssuerId) (purpose : Purpose)
    (width : SlotWidth) :
    ∃ ttl, (Service.withDefaults c (Service.groupRequest issuer purpose width)).plan =
      .ok ⟨width, c.capacity, ttl⟩ := by
  obtain ⟨ttl, httl⟩ := planTtl_of_valid hc
  refine ⟨ttl, ?_⟩
  show (SlotWidth.ofRequest (some (.ofNat width.bits)) >>= fun width =>
    planCapacity (some c.capacity) >>= fun capacity => planTtl c.ttl >>= fun ttl =>
      pure (⟨width, capacity, ttl⟩ : ListPlan)) = _
  rw [Service.ofRequest_bits, planCapacity_of_valid hc, httl]
  rfl

namespace Memory

variable {m m' : Memory} {a : Assignment} {l : StatusList}

/-- A stored list is one that an assignment may use, and it has room. -/
structure Ready (m : Memory) (a : Assignment) (l : StatusList) : Prop where
  stored : m.StoresList l
  purpose_eq : l.purpose = a.purpose
  width_eq : l.width = a.width
  hasRoom : l.hasRoom = true

/-- A list that was ready is still there later. -/
theorem Ready.later (h : m.Ready a l) (hm : m.Consistent) (hleads : m.Leads m') :
    ∃ l', m'.StoresList l' ∧ l'.id = l.id ∧ l'.purpose = a.purpose ∧ l'.width = a.width ∧
      l.used ≤ l'.used := by
  obtain ⟨l', hl', hsame, hused⟩ := (hleads.extends hm).list h.stored
  exact ⟨l', hl', hsame.id_eq, hsame.purpose_eq.trans h.purpose_eq,
    hsame.width_eq.trans h.width_eq, hused⟩

/-- A list that is made on demand is ready. -/
theorem createList_of_valid (m : Memory) (a : Assignment) {c : Config} (hc : c.Valid)
    (stamp : Stamp) :
    ∃ l, m.answer stamp (.createList (Service.withDefaults c
        (Service.groupRequest a.issuer a.purpose a.width))) = (.ok l, m.putList l) ∧
      (m.putList l).Ready a l := by
  obtain ⟨ttl, hplan⟩ := plan_of_valid hc a.issuer a.purpose a.width
  have hcreate : ∃ l, StatusList.create (Service.withDefaults c
      (Service.groupRequest a.issuer a.purpose a.width)) ⟨stamp.fresh⟩ stamp.now = .ok l ∧
        l.purpose = a.purpose ∧ l.width = a.width ∧ l.used = 0 ∧ l.capacity = c.capacity := by
    unfold StatusList.create
    rw [hplan]
    exact ⟨_, rfl, rfl, rfl, rfl, rfl⟩
  obtain ⟨l, hcreate, hpurpose, hwidth, hused, hcapacity⟩ := hcreate
  refine ⟨l, ?_, putList_lists_self m l, hpurpose, hwidth, ?_⟩
  · show m.createList _ stamp = _
    unfold createList
    rw [hcreate]
  · apply decide_eq_true
    rw [hused, hcapacity]
    exact UInt64.lt_of_lt_of_le (by decide) hc.minCapacity_le

end Memory

/-! ## Lists that fill up -/

/-- A list is chosen in a turn: it was found to have room, or it was made. -/
def Turn.Picks (t : Turn) (l : StatusList) : Prop :=
  (∃ issuer purpose width, t.request = .findAvailable issuer purpose width ∧
    t.before.findAvailable issuer purpose width = some l) ∨
  ∃ r, t.request = .createList r ∧ (t.before.createList r t.stamp).1 = .ok l

/-- A list is needed in a turn, to be read or to take an entry, and has no room when the turn
comes. -/
def Turn.FindsFull (t : Turn) (list : ListId) : Prop :=
  (t.request = .findList list ∨ ∃ r, t.request = .createEntry r ∧ r.list = list) ∧
  ∃ l, t.before.lists[list]? = some l ∧ l.hasRoom = false

theorem Turn.Picks.unique {t : Turn} {l l' : StatusList} (h : t.Picks l) (h' : t.Picks l') :
    l' = l := by
  rcases h with ⟨issuer, purpose, width, hq, hl⟩ | ⟨r, hq, hl⟩
  · rcases h' with ⟨issuer', purpose', width', hq', hl'⟩ | ⟨r', hq', hl'⟩
    · rw [hq] at hq'
      cases hq'
      rw [hl] at hl'
      exact (Option.some.inj hl').symm
    · rw [hq] at hq'
      cases hq'
  · rcases h' with ⟨issuer', purpose', width', hq', hl'⟩ | ⟨r', hq', hl'⟩
    · rw [hq] at hq'
      cases hq'
    · rw [hq] at hq'
      cases hq'
      rw [hl] at hl'
      exact (Except.ok.inj hl').symm

/-- Every list that was chosen had room then, and was full in a later turn that needed it. -/
def FilledUp : List Turn → Prop
  | [] => True
  | t :: turns =>
    (∀ l, t.Picks l → t.after.lists[l.id]? = some l ∧ l.hasRoom = true ∧
      ∃ t' ∈ turns, t'.FindsFull l.id) ∧ FilledUp turns

/-- The same up to one list, which will have been full if it is full later. -/
def Awaits (turns : List Turn) (list : ListId) : Prop :=
  ∀ later, FilledUp later → (∃ t ∈ later, t.FindsFull list) → FilledUp (turns ++ later)

theorem FilledUp.append {front back : List Turn} (hfront : FilledUp front)
    (hback : FilledUp back) : FilledUp (front ++ back) := by
  induction front with
  | nil => exact hback
  | cons t front ih =>
    refine ⟨?_, ih hfront.2⟩
    intro l hl
    obtain ⟨hstored, hroom, t', ht', hfull⟩ := hfront.1 l hl
    exact ⟨hstored, hroom, t', List.mem_append_left back ht', hfull⟩

theorem filledUp_single {t : Turn} (h : ∀ l, ¬ t.Picks l) : FilledUp [t] :=
  ⟨fun l hl => absurd hl (h l), trivial⟩

theorem FilledUp.awaits_append {front back : List Turn} {list : ListId} (hfront : FilledUp front)
    (hback : Awaits back list) : Awaits (front ++ back) list := by
  intro later hlater hfull
  rw [List.append_assoc]
  exact hfront.append (hback later hlater hfull)

theorem Awaits.append {front back : List Turn} {list : ListId} (hfront : Awaits front list)
    (hback : FilledUp back) : Awaits (front ++ back) list := by
  intro later hlater hfull
  obtain ⟨t, ht, hfull⟩ := hfull
  rw [List.append_assoc]
  exact hfront _ (hback.append hlater) ⟨t, List.mem_append_right back ht, hfull⟩

theorem awaits_single {t : Turn} {l : StatusList} (hpicks : t.Picks l)
    (hstored : t.after.lists[l.id]? = some l) (hroom : l.hasRoom = true) : Awaits [t] l.id := by
  intro later hlater hfull
  refine ⟨?_, hlater⟩
  intro l' hl'
  obtain rfl := hpicks.unique hl'
  exact ⟨hstored, hroom, hfull⟩

/-- A request that neither looks for a list nor makes one chooses none. -/
theorem not_picks {t : Turn}
    (hfind : ∀ issuer purpose width, t.request ≠ .findAvailable issuer purpose width)
    (hmake : ∀ r, t.request ≠ .createList r) (l : StatusList) : ¬ t.Picks l := by
  rintro (⟨issuer, purpose, width, hq, -⟩ | ⟨r, hq, -⟩)
  · exact hfind issuer purpose width hq
  · exact hmake r hq

namespace Service

variable {c : Config} {a : Assignment} {m m' : Memory} {turns : List Turn}

/-! ## Choosing a list -/

/-- A list was chosen last that is ready, and all that were chosen before were full. -/
structure Picked (a : Assignment) (turns : List Turn) (m' : Memory) (l : StatusList) : Prop where
  picks : ∃ t ∈ turns, ∃ l, t.Picks l
  ready : m'.Ready a l
  awaits : Awaits turns l.id

/-- A list that is made on demand is ready. -/
theorem plays_createList (hc : c.Valid) {r : Except ServiceError StatusList}
    (h : Plays (createList c (groupRequest a.issuer a.purpose a.width)).run m turns m' r) :
    ∃ l, r = .ok l ∧ Picked a turns m' l := by
  obtain ⟨ttl, hplan⟩ := plan_of_valid hc a.issuer a.purpose a.width
  obtain ⟨before, stamp, -, -, rfl, rfl, rfl⟩ :=
    plays_ask_iff.mp ((plays_check_bind_iff hplan).mp h)
  obtain ⟨l, hanswer, hready⟩ := Memory.createList_of_valid before a hc stamp
  have hpicks : Turn.Picks ⟨before, stamp,
      .createList (withDefaults c (groupRequest a.issuer a.purpose a.width))⟩ l :=
    .inr ⟨_, rfl, congrArg Prod.fst hanswer⟩
  rw [hanswer]
  refine ⟨l, rfl, ⟨_, List.mem_singleton_self _, l, hpicks⟩, hready,
    awaits_single hpicks ?_ hready.hasRoom⟩
  unfold Turn.after
  rw [hanswer]
  exact hready.stored

/-- A list of the group that has room is found, or made. -/
theorem plays_findOrCreate (hm : m.Consistent) (hc : c.Valid) {r : Except ServiceError StatusList}
    (h : Plays (findOrCreate c a.issuer a.purpose a.width).run m turns m' r) :
    ∃ l, r = .ok l ∧ Picked a turns m' l := by
  obtain ⟨before, stamp, rest, hleads, rfl, hrest⟩ :=
    (plays_read_bind_iff (reads_findAvailable a.issuer a.purpose a.width)).mp h
  cases hfound : before.findAvailable a.issuer a.purpose a.width with
  | some l =>
    rw [hfound] at hrest
    obtain ⟨rfl, rfl, rfl⟩ := plays_pure_iff.mp hrest
    obtain ⟨⟨hstored, hgroup, hroom⟩, -⟩ :=
      (hleads.consistent hm).findAvailable_eq_some_iff.mp hfound
    simp only [StatusList.inGroup, Bool.and_eq_true, decide_eq_true_eq] at hgroup
    have hpicks : Turn.Picks ⟨m', stamp, .findAvailable a.issuer a.purpose a.width⟩ l :=
      .inl ⟨_, _, _, rfl, hfound⟩
    exact ⟨l, rfl, ⟨_, List.mem_singleton_self _, l, hpicks⟩,
      ⟨hstored, hgroup.1.2, hgroup.2, hroom⟩, awaits_single hpicks hstored hroom⟩
  | none =>
    rw [hfound] at hrest
    obtain ⟨l, rfl, ⟨t, ht, hpicks⟩, hready, hawaits⟩ := plays_createList hc hrest
    refine ⟨l, rfl, ⟨t, List.mem_cons_of_mem _ ht, hpicks⟩, hready, ?_⟩
    refine (filledUp_single ?_).awaits_append hawaits
    rintro l (⟨issuer, purpose, width, hq, hl⟩ | ⟨r, hq, -⟩)
    · cases hq
      rw [hfound] at hl
      cases hl
    · cases hq

/-- A list that is there at every turn is read. -/
theorem plays_getList {list : ListId} (hkept : ∀ m', m.Leads m' → ∃ l, m'.lists[list]? = some l)
    {r : Except ServiceError StatusList} (h : Plays (getList list).run m turns m' r) :
    ∃ stamp l, turns = [⟨m', stamp, .findList list⟩] ∧ m.Leads m' ∧ m'.lists[list]? = some l ∧
      r = .ok l := by
  obtain ⟨before, stamp, rest, hleads, rfl, hrest⟩ :=
    (plays_read_bind_iff (reads_findList list)).mp h
  obtain ⟨l, hl⟩ := hkept before hleads
  rw [show before.findList list = some l from hl] at hrest
  obtain ⟨rfl, rfl, rfl⟩ := plays_pure_iff.mp hrest
  exact ⟨stamp, l, rfl, hleads, hl, rfl⟩

theorem plays_nextIndex {list : ListId} (hkept : ∀ m', m.Leads m' → ∃ l, m'.lists[list]? = some l)
    {r : Except ServiceError (Option UInt64)} (h : Plays (nextIndex list).run m turns m' r) :
    ∃ stamp l, turns = [⟨m', stamp, .findList list⟩] ∧ m.Leads m' ∧ m'.lists[list]? = some l ∧
      r = .ok (if l.hasRoom then some l.used else none) := by
  rcases plays_bind_iff.mp h with ⟨err, hget, -⟩ | ⟨l, front, back, m₁, rfl, hget, hpure⟩
  · obtain ⟨_, _, -, -, -, herr⟩ := plays_getList hkept hget
    cases herr
  · obtain ⟨stamp, l', rfl, hleads, hl, heq⟩ := plays_getList hkept hget
    cases heq
    obtain ⟨rfl, rfl, rfl⟩ := plays_pure_iff.mp hpure
    exact ⟨stamp, l, rfl, hleads, hl, rfl⟩

/-- A chosen list offers its next slot, or others have filled it up. -/
theorem Picked.next {l : StatusList} (hpicked : Picked a turns m l) (hm : m.Consistent)
    {back : List Turn} {r : Except ServiceError (Option UInt64)}
    (h : Plays (nextIndex l.id).run m back m' r) :
    (∃ l', l'.id = l.id ∧ r = .ok (some l'.used) ∧ Picked a (turns ++ back) m' l') ∨
      r = .ok none ∧ FilledUp (turns ++ back) ∧ ¬ Undisturbed m back := by
  obtain ⟨t, ht, hpicks⟩ := hpicked.picks
  have hkept : ∀ m', m.Leads m' → ∃ l', m'.lists[l.id]? = some l' := by
    intro m' hleads
    obtain ⟨l', hl', hid, -⟩ := hpicked.ready.later hm hleads
    exact ⟨l', by rw [← hid]; exact hl'⟩
  obtain ⟨stamp, found, rfl, hleads, hfound, rfl⟩ := plays_nextIndex hkept h
  obtain ⟨l', hl', hid, hpurpose, hwidth, -⟩ := hpicked.ready.later hm hleads
  obtain rfl : l' = found := by
    rw [← hid, hl'] at hfound
    exact Option.some.inj hfound
  have hquiet : FilledUp [(⟨m', stamp, .findList l.id⟩ : Turn)] :=
    filledUp_single (not_picks (by rintro _ _ _ ⟨⟩) (by rintro _ ⟨⟩))
  cases hroom : l'.hasRoom with
  | true =>
    refine .inl ⟨l', hid, rfl, ⟨t, List.mem_append_left _ ht, hpicks⟩,
      ⟨hl', hpurpose, hwidth, hroom⟩, ?_⟩
    rw [hid]
    exact hpicked.awaits.append hquiet
  | false =>
    refine .inr ⟨rfl, ?_, ?_⟩
    · exact hpicked.awaits _ hquiet ⟨_, List.mem_singleton_self _, .inl rfl, l', hfound, hroom⟩
    · rintro ⟨rfl, -⟩
      have heq : l' = l := hl'.unique hpicked.ready.stored hid
      rw [heq, hpicked.ready.hasRoom] at hroom
      cases hroom

/-- A service that takes the next slot of a chosen list comes to that slot, or it goes on after
others have filled the list up. -/
theorem Picked.offer {l : StatusList} (hpicked : Picked a turns m l) (hm : m.Consistent)
    {f : Option UInt64 → Service (Option (ListId × UInt64))}
    (hf : ∀ index, f (some index) = pure (some (l.id, index))) {back : List Turn}
    {r : Except ServiceError (Option (ListId × UInt64))}
    (h : Plays (nextIndex l.id >>= f).run m back m' r) :
    (∃ l', r = .ok (some (l'.id, l'.used)) ∧ Picked a (turns ++ back) m' l') ∨
      ∃ front rest m₁, back = front ++ rest ∧ m.Leads m₁ ∧ FilledUp (turns ++ front) ∧
        ¬ Undisturbed m back ∧ Plays (f none).run m₁ rest m' r := by
  rcases plays_bind_iff.mp h with ⟨err, hnext, -⟩ | ⟨next, front, rest, m₁, rfl, hnext, hrest⟩
  · rcases hpicked.next hm hnext with ⟨l', -, heq, -⟩ | ⟨heq, -⟩ <;> cases heq
  rcases hpicked.next hm hnext with ⟨l', hid, heq, hpicked'⟩ | ⟨heq, hfilled, hdisturbed⟩
  · cases heq
    rw [hf, ← hid] at hrest
    obtain ⟨rfl, rfl, rfl⟩ := plays_pure_iff.mp hrest
    rw [List.append_nil]
    exact .inl ⟨l', rfl, hpicked'⟩
  · cases heq
    exact .inr ⟨front, rest, m₁, rfl, hnext.course.leads, hfilled,
      fun h => hdisturbed (hnext.course.undisturbed_append.mp h).1, hrest⟩

/-- What the choice of a slot comes to: a slot of a list that is ready, or none, and then others
have filled up every list that was chosen. -/
theorem plays_chooseSlot (hm : m.Consistent) (hc : c.Valid)
    {r : Except ServiceError (Option (ListId × UInt64))}
    (h : Plays (chooseSlot c a).run m turns m' r) :
    (∃ l, r = .ok (some (l.id, l.used)) ∧ Picked a turns m' l) ∨
      r = .ok none ∧ (∃ t ∈ turns, ∃ l, t.Picks l) ∧ FilledUp turns ∧ ¬ Undisturbed m turns := by
  rcases plays_bind_iff.mp h with ⟨err, hlist, -⟩ | ⟨l, front, rest, m₁, rfl, hlist, h₁⟩
  · obtain ⟨l, heq, -⟩ := plays_findOrCreate hm hc hlist
    cases heq
  obtain ⟨_, heq, hpicked⟩ := plays_findOrCreate hm hc hlist
  cases heq
  have hm₁ := hlist.course.leads.consistent hm
  rcases hpicked.offer hm₁ (fun _ => rfl) h₁ with ⟨l', rfl, hpicked'⟩ |
    ⟨front', rest, m₂, rfl, hleads, hfilled, hdisturbed, h₂⟩
  · exact .inl ⟨l', rfl, hpicked'⟩
  -- the first list has filled up, and another one is made
  have hm₂ := hleads.consistent hm₁
  rcases plays_bind_iff.mp h₂ with ⟨err, hmake, -⟩ | ⟨l', made, rest, m₃, rfl, hmake, h₃⟩
  · obtain ⟨l', heq, -⟩ := plays_createList hc hmake
    cases heq
  obtain ⟨_, heq, hmade⟩ := plays_createList hc hmake
  cases heq
  obtain ⟨t, ht, hpicks⟩ := hmade.picks
  have hpicked' : Picked a (front ++ front' ++ made) m₃ l' :=
    ⟨⟨t, List.mem_append_right _ ht, hpicks⟩, hmade.ready, hfilled.awaits_append hmade.awaits⟩
  have happend : front ++ (front' ++ (made ++ rest)) = front ++ front' ++ made ++ rest := by
    simp only [List.append_assoc]
  rw [happend]
  rcases hpicked'.offer (hmake.course.leads.consistent hm₂) (fun _ => rfl) h₃ with
    ⟨l'', rfl, hpicked''⟩ | ⟨front'', last, m₄, rfl, -, hfilled', -, h₄⟩
  · exact .inl ⟨l'', rfl, hpicked''⟩
  · obtain ⟨rfl, rfl, rfl⟩ := plays_pure_iff.mp h₄
    refine .inr ⟨rfl, ⟨t, by simp [ht], hpicks⟩, ?_, ?_⟩
    · rw [List.append_nil]
      exact hfilled'
    · rw [← happend]
      exact fun h => hdisturbed (hlist.course.undisturbed_append.mp h).2

/-! ## Attempts -/

/-- An attempt came to nothing, as others had turns between its own and filled up every list that
it chose. -/
structure Lost (c : Config) (a : Assignment) (m : Memory) (part : List Turn) (m' : Memory) :
    Prop where
  plays : Plays (attempt c a).run m part m' (.ok none)
  picks : ∃ t ∈ part, ∃ l, t.Picks l
  filledUp : FilledUp part
  disturbed : ¬ Undisturbed m part

/-- An attempt is lost if the list that it chose last has filled up when its entry comes. -/
theorem Picked.lost {front : List Turn} {m₁ before : Memory} {stamp : Stamp} {r : EntryRequest}
    {l l' : StatusList} (hpicked : Picked a front m₁ l) (hcourse : Course m front m₁)
    (hr : r.list = l.id) (hl' : before.StoresList l') (hid : l'.id = l.id)
    (hroom : l'.hasRoom = false)
    (hplays : Plays (attempt c a).run m (front ++ [⟨before, stamp, .createEntry r⟩]) m'
      (.ok none)) :
    Lost c a m (front ++ [⟨before, stamp, .createEntry r⟩]) m' := by
  obtain ⟨t, ht, hpicks⟩ := hpicked.picks
  have hfull : (⟨before, stamp, .createEntry r⟩ : Turn).FindsFull l.id :=
    ⟨.inr ⟨r, rfl, hr⟩, l', by rw [← hid]; exact hl', hroom⟩
  refine ⟨hplays, ⟨t, List.mem_append_left _ ht, hpicks⟩, ?_, ?_⟩
  · exact hpicked.awaits _ (filledUp_single (not_picks (by rintro _ _ _ ⟨⟩) (by rintro _ ⟨⟩)))
      ⟨_, List.mem_singleton_self _, hfull⟩
  · intro h
    obtain ⟨rfl, -⟩ := (hcourse.undisturbed_append.mp h).2
    have heq : l' = l := hl'.unique hpicked.ready.stored hid
    rw [heq, hpicked.ready.hasRoom] at hroom
    cases hroom

/-- **An attempt comes to an entry, unless others have filled up every list that it chose.** -/
theorem plays_attempt (hm : m.Consistent) (hc : c.Valid)
    {r : Except ServiceError (Option StatusEntry)} (h : Plays (attempt c a).run m turns m' r) :
    (∃ e, r = .ok (some e)) ∨ r = .ok none ∧ Lost c a m turns m' := by
  have hplays := h
  rcases plays_bind_iff.mp h with ⟨err, hchoose, -⟩ | ⟨choice, front, rest, m₁, rfl, hchoose, h₁⟩
  · rcases plays_chooseSlot hm hc hchoose with ⟨l, heq, -⟩ | ⟨heq, -⟩ <;> cases heq
  have hm₁ := hchoose.course.leads.consistent hm
  rcases plays_chooseSlot hm hc hchoose with ⟨l, heq, hpicked⟩ | ⟨heq, hpicks, hfilled, hdisturbed⟩
  · cases heq
    obtain ⟨before, stamp, back, hleads, -, rfl, h₂⟩ := plays_lift_bind_iff.mp h₁
    obtain ⟨l', hl', hid, hpurpose, hwidth, hused⟩ := hpicked.ready.later hm₁ hleads
    rcases Memory.createEntry_cases (r := entryRequest a l.id l.used) hl' hid.symm hpurpose hwidth
      hused stamp with ⟨e, hanswer⟩ | ⟨hanswer, hroom⟩ | ⟨hanswer, id, hkey⟩
    · rw [hanswer] at h₂
      obtain ⟨rfl, rfl, rfl⟩ := plays_pure_iff.mp h₂
      exact .inl ⟨e, rfl⟩
    · -- the list has filled up since it was read
      rw [hanswer] at h₂
      obtain ⟨rfl, rfl, rfl⟩ := plays_pure_iff.mp h₂
      exact .inr ⟨rfl, hpicked.lost hchoose.course rfl hl' hid hroom hplays⟩
    · -- others have given the credential its entry
      rw [hanswer] at h₂
      obtain ⟨later, stamp', hleads', -, rfl, -, rfl⟩ := plays_ask_iff.mp h₂
      rw [Memory.createEntry_answer_error hanswer] at hleads'
      obtain ⟨e, he⟩ : ∃ e, later.findEntry a.credential a.purpose = some e :=
        (hleads.consistent hm₁).findEntry_later hkey hleads'
      refine .inl ⟨e, ?_⟩
      show Except.ok (later.findEntry a.credential a.purpose) = _
      rw [he]
  · cases heq
    obtain ⟨rfl, rfl, rfl⟩ := plays_pure_iff.mp h₁
    rw [List.append_nil] at hplays ⊢
    exact .inr ⟨rfl, hplays, hpicks, hfilled, hdisturbed⟩

/-- Lost attempts, one after another. -/
inductive LostAttempts (c : Config) (a : Assignment) : Memory → List (List Turn) → Memory → Prop
    where
  | nil (m : Memory) : LostAttempts c a m [] m
  | cons {m m₁ m' : Memory} {part : List Turn} {parts : List (List Turn)}
      (lost : Lost c a m part m₁) (rest : LostAttempts c a m₁ parts m') :
      LostAttempts c a m (part :: parts) m'

theorem plays_attempts (n : Nat) (hm : m.Consistent) (hc : c.Valid)
    {r : Except ServiceError StatusEntry} (h : Plays (attempts c a n).run m turns m' r) :
    (∃ e, r = .ok e) ∨ r = .error (.exhausted 32) ∧
      ∃ parts, turns = List.flatten parts ∧ parts.length = n ∧ LostAttempts c a m parts m' := by
  induction n generalizing m turns with
  | zero =>
    obtain ⟨rfl, rfl, rfl⟩ := plays_throw_iff.mp h
    exact .inr ⟨rfl, [], rfl, rfl, .nil m'⟩
  | succ n ih =>
    rcases plays_bind_iff.mp h with ⟨err, hattempt, -⟩ | ⟨found, part, rest, m₁, rfl, hattempt, h'⟩
    · rcases plays_attempt hm hc hattempt with ⟨e, heq⟩ | ⟨heq, -⟩ <;> cases heq
    rcases plays_attempt hm hc hattempt with ⟨e, heq⟩ | ⟨heq, hlost⟩
    · cases heq
      obtain ⟨rfl, rfl, rfl⟩ := plays_pure_iff.mp h'
      exact .inl ⟨e, rfl⟩
    · cases heq
      rcases ih (hattempt.course.leads.consistent hm) h' with
        ⟨e, rfl⟩ | ⟨rfl, parts, rfl, hlength, hparts⟩
      · exact .inl ⟨e, rfl⟩
      · exact .inr ⟨rfl, part :: parts, rfl, by rw [List.length_cons, hlength],
          .cons hlost hparts⟩

/-- Without others the first attempt is the last one. -/
theorem plays_attempts_undisturbed {n : Nat} (hm : m.Consistent) (hc : c.Valid)
    {r : Except ServiceError StatusEntry} (h : Plays (attempts c a (n + 1)).run m turns m' r)
    (hundisturbed : Undisturbed m turns) :
    ∃ e, r = .ok e ∧ Plays (attempt c a).run m turns m' (.ok (some e)) := by
  rcases plays_bind_iff.mp h with ⟨err, hattempt, -⟩ | ⟨found, part, rest, m₁, rfl, hattempt, h'⟩
  · rcases plays_attempt hm hc hattempt with ⟨e, heq⟩ | ⟨heq, -⟩ <;> cases heq
  rcases plays_attempt hm hc hattempt with ⟨e, heq⟩ | ⟨heq, hlost⟩
  · cases heq
    obtain ⟨rfl, rfl, rfl⟩ := plays_pure_iff.mp h'
    rw [List.append_nil]
    exact ⟨e, rfl, hattempt⟩
  · exact absurd (hattempt.course.undisturbed_append.mp hundisturbed).1 hlost.disturbed

/-! ## Left alone -/

/-- Between two stores no record was made but under the names that are given to operations. -/
def TakesOnly (stamp : StoreRequest → Stamp) (m m' : Memory) : Prop :=
  ∀ name, m.Unnamed name → (∀ q, (stamp q).fresh ≠ name) → m'.Unnamed name

theorem TakesOnly.answer {stamp : StoreRequest → Stamp} {m₁ : Memory} (h : TakesOnly stamp m m₁)
    (hm₁ : m₁.Consistent) (q : StoreRequest) : TakesOnly stamp m (m₁.answer (stamp q) q).2 :=
  fun name hname hother => (h name hname hother).answer hm₁ (hother q) q

section Alone

variable {stamp : StoreRequest → Stamp}

/-- Left alone, the search for a list comes to one and makes no entry. -/
theorem alone_findOrCreate (hm : m.Consistent) (hc : c.Valid)
    (hfresh : ∀ q, m.Fresh (stamp q).fresh q) :
    ∃ m₁ l, Alone (findOrCreate c a.issuer a.purpose a.width).run m m₁ (.ok l) ∧
      m₁.entries = m.entries ∧ m₁.byCredential = m.byCredential ∧ TakesOnly stamp m m₁ := by
  have hkept : TakesOnly stamp m m := fun _ hname _ => hname
  cases hfound : m.findAvailable a.issuer a.purpose a.width with
  | some l =>
    refine ⟨m, l, alone_bind (alone_read (reads_findAvailable _ _ _) (stamp (.findList l.id))) ?_,
      rfl, rfl, hkept⟩
    rw [hfound]
    exact alone_pure
  | none =>
    obtain ⟨ttl, hplan⟩ := plan_of_valid hc a.issuer a.purpose a.width
    have hlist := hfresh (.createList (withDefaults c (groupRequest a.issuer a.purpose a.width)))
    obtain ⟨l, hanswer, -⟩ := Memory.createList_of_valid m a hc (stamp (.createList
      (withDefaults c (groupRequest a.issuer a.purpose a.width))))
    have hmake : Alone (ofStore (.request (.createList
        (withDefaults c (groupRequest a.issuer a.purpose a.width))))).run m
          (m.answer (stamp (.createList _)) (.createList _)).2 (.ok l) :=
      alone_ask hlist (congrArg Prod.fst hanswer)
    have htakes := hkept.answer hm
      (.createList (withDefaults c (groupRequest a.issuer a.purpose a.width)))
    rw [hanswer] at hmake htakes
    refine ⟨m.putList l, l, alone_bind (alone_read (reads_findAvailable _ _ _)
      (stamp (.findList l.id))) ?_, rfl, rfl, htakes⟩
    rw [hfound]
    exact alone_check_bind hplan hmake

theorem alone_nextIndex {list : ListId} {l : StatusList} (hl : m.lists[list]? = some l)
    (hroom : l.hasRoom = true) (stamp : Stamp) :
    Alone (nextIndex list).run m m (.ok (some l.used)) := by
  have hget : Alone (getList list).run m m (.ok l) := by
    refine alone_bind (alone_read (reads_findList list) stamp) ?_
    rw [show m.findList list = some l from hl]
    exact alone_pure
  refine alone_bind hget ?_
  rw [if_pos hroom]
  exact alone_pure

/-- Left alone, an attempt for a credential without an entry comes to one. -/
theorem alone_attempt (hm : m.Consistent) (hc : c.Valid) (hfresh : ∀ q, m.Fresh (stamp q).fresh q)
    (hnone : m.byCredential[(a.credential, a.purpose)]? = none) :
    ∃ m' e, Alone (attempt c a).run m m' (.ok (some e)) ∧ TakesOnly stamp m m' := by
  obtain ⟨m₁, l, hlist, hentries, hkeys, htakes⟩ := alone_findOrCreate (a := a) hm hc hfresh
  obtain ⟨hm₁, hready⟩ : m₁.Consistent ∧ m₁.Ready a l := by
    obtain ⟨turns, hplays, -⟩ := hlist
    obtain ⟨_, heq, hpicked⟩ := plays_findOrCreate hm hc hplays
    cases heq
    exact ⟨hplays.course.leads.consistent hm, hpicked.ready⟩
  have hchoose : Alone (chooseSlot c a).run m m₁ (.ok (some (l.id, l.used))) :=
    alone_bind hlist (alone_bind (alone_nextIndex hready.stored hready.hasRoom
      (stamp (.findList l.id))) alone_pure)
  have hentry : m₁.Fresh (stamp (.createEntry (entryRequest a l.id l.used))).fresh
      (.createEntry (entryRequest a l.id l.used)) := by
    have hnew : m.entries[_]? = none := hfresh (.createEntry (entryRequest a l.id l.used))
    rw [← hentries] at hnew
    exact hnew
  have hsubmit := alone_lift hentry
  rcases Memory.createEntry_cases (r := entryRequest a l.id l.used) hready.stored rfl
    hready.purpose_eq hready.width_eq (UInt64.le_refl _)
    (stamp (.createEntry (entryRequest a l.id l.used))) with
    ⟨e, hanswer⟩ | ⟨-, hroom⟩ | ⟨-, id, hkey⟩
  · rw [hanswer] at hsubmit
    exact ⟨_, e, alone_bind hchoose (alone_bind hsubmit alone_pure), htakes.answer hm₁ _⟩
  · rw [hready.hasRoom] at hroom
    cases hroom
  · rw [hkeys] at hkey
    exact absurd (hkey.symm.trans hnone) (by rintro ⟨⟩)

/-- Left alone, an assignment of a credential without an entry comes to one. -/
theorem alone_assign {width : Option UInt32} (hm : m.Consistent) (hc : c.Valid)
    (hwidth : SlotWidth.ofRequest width = .ok a.width)
    (hfresh : ∀ q, m.Fresh (stamp q).fresh q)
    (hnone : m.byCredential[(a.credential, a.purpose)]? = none) :
    ∃ m' e, Alone (assign c a.credential a.issuer a.purpose width).run m m' (.ok e) ∧
      TakesOnly stamp m m' := by
  obtain ⟨m', e, hattempt, htakes⟩ := alone_attempt hm hc hfresh hnone
  refine ⟨m', e, alone_check_bind hwidth (alone_bind (alone_read
    (reads_findEntry a.credential a.purpose) (stamp (.findEntry a.credential a.purpose))) ?_),
    htakes⟩
  rw [hm.findEntry_eq_none_iff_key.mpr hnone]
  exact alone_bind hattempt alone_pure

end Alone

/-! ## The assignment -/

/-- What can become of an assignment in a store that others use. -/
structure AssignmentReliable (c : Config) (m : Memory) (a : Assignment) (width : Option UInt32) :
    Prop where
  /-- Whatever others do between its turns, it ends with an entry, or all of its 32 attempts were
  lost. -/
  ends : ∀ turns m' r, Plays (assign c a.credential a.issuer a.purpose width).run m turns m' r →
    (∃ e, r = .ok e) ∨ r = .error (.exhausted 32) ∧
      ∃ first parts, turns = first :: List.flatten parts ∧ parts.length = 32 ∧
        LostAttempts c a first.after parts m'
  /-- If others do nothing, it ends with an entry, at once or in its first attempt. -/
  undisturbed : ∀ turns m' r,
    Plays (assign c a.credential a.issuer a.purpose width).run m turns m' r →
    Undisturbed m turns → ∃ e, r = .ok e ∧ ∃ first rest, turns = first :: rest ∧
      (rest = [] ∨ Plays (attempt c a).run m rest m' (.ok (some e)))
  /-- And it does end, with any identifiers that are new to the store. -/
  alone : ∀ stamp : StoreRequest → Stamp, (∀ q, m.Fresh (stamp q).fresh q) →
    ∃ m' e, Alone (assign c a.credential a.issuer a.purpose width).run m m' (.ok e)

/-- **An assignment fails only if each of its 32 attempts lost its lists to others, and never if
it is left alone.** -/
theorem assign_reliable {c : Config} (hc : c.Valid) {m : Memory} (hm : m.Reachable)
    (a : Assignment) {width : Option UInt32} (hwidth : SlotWidth.ofRequest width = .ok a.width) :
    AssignmentReliable c m a width := by
  have h := hm.consistent
  constructor
  · intro turns m' r hplays
    obtain ⟨before, stamp, rest, hleads, rfl, hrest⟩ :=
      (plays_read_bind_iff (reads_findEntry _ _)).mp ((plays_check_bind_iff hwidth).mp hplays)
    cases hfound : before.findEntry a.credential a.purpose with
    | some e =>
      rw [hfound] at hrest
      obtain ⟨rfl, rfl, rfl⟩ := plays_pure_iff.mp hrest
      exact .inl ⟨e, rfl⟩
    | none =>
      rw [hfound] at hrest
      rcases plays_attempts _ (hleads.consistent h) hc hrest with
        he | ⟨rfl, parts, rfl, hlength, hparts⟩
      · exact .inl he
      · exact .inr ⟨rfl, _, parts, rfl, hlength, hparts⟩
  · intro turns m' r hplays hundisturbed
    obtain ⟨before, stamp, rest, -, rfl, hrest⟩ :=
      (plays_read_bind_iff (reads_findEntry _ _)).mp ((plays_check_bind_iff hwidth).mp hplays)
    obtain ⟨rfl, hundisturbed⟩ := hundisturbed
    cases hfound : before.findEntry a.credential a.purpose with
    | some e =>
      rw [hfound] at hrest
      obtain ⟨rfl, rfl, rfl⟩ := plays_pure_iff.mp hrest
      exact ⟨e, rfl, _, [], rfl, .inl rfl⟩
    | none =>
      rw [hfound] at hrest
      obtain ⟨e, rfl, hattempt⟩ := plays_attempts_undisturbed h hc hrest hundisturbed
      exact ⟨e, rfl, _, rest, rfl, .inr hattempt⟩
  · intro stamp hfresh
    cases hfound : m.findEntry a.credential a.purpose with
    | some e =>
      refine ⟨m, e, alone_check_bind hwidth (alone_bind (alone_read (m := m)
        (reads_findEntry a.credential a.purpose) (stamp (.findEntry a.credential a.purpose))) ?_)⟩
      rw [hfound]
      exact alone_pure
    | none =>
      obtain ⟨m', e, halone, -⟩ :=
        alone_assign h hc hwidth hfresh (h.findEntry_eq_none_iff_key.mp hfound)
      exact ⟨m', e, halone⟩

/-! ## A call among others -/

/-- Lost attempts have taken at least one turn each. -/
theorem LostAttempts.length_le {parts : List (List Turn)} (h : LostAttempts c a m parts m') :
    parts.length ≤ (List.flatten parts).length := by
  induction h with
  | nil m => exact Nat.le_refl _
  | cons lost _ ih =>
    obtain ⟨t, ht, -⟩ := lost.picks
    have hpart := List.length_pos_of_mem ht
    rw [List.length_cons, List.flatten_cons, List.length_append]
    omega

namespace Sample

open Memory.Sample

/-- A credential that has no entry in the sample store. -/
def later : CredentialId := ⟨"urn:example:later", by decide⟩

/-- The turns of a call for the later credential: others make a list behind the first turn, and take
the slot that was offered behind the third. -/
def disturbed : List Turn :=
  [⟨.empty, stamp 3, .findEntry later .revocation⟩,
    ⟨withList, stamp 3, .findAvailable issuer .revocation .one⟩,
    ⟨withList, stamp 3, .findList list.id⟩,
    ⟨store, stamp 3, .createEntry (entryRequest ⟨later, issuer, .revocation, .one⟩ list.id 0)⟩]

theorem findAvailable_withList :
    withList.findAvailable issuer .revocation .one = some list := by
  refine (leads_withList.consistent Memory.empty_consistent).findAvailable_eq_some_iff.mpr
    ⟨⟨withList_lists, rfl, by decide⟩, ?_⟩
  rintro l ⟨hl, -⟩
  rw [withList_eq] at hl
  rcases Memory.storesList_putList.mp hl with rfl | ⟨-, hl⟩
  · decide
  · exact absurd ((Memory.empty_lists l.id).symm.trans hl) (by rintro ⟨⟩)

theorem allots_store :
    store.Allots (list.withSlotTaken ⟨.epoch⟩)
      (entryRequest ⟨later, issuer, .revocation, .one⟩ list.id 0) := by
  refine ⟨?_, rfl, rfl, by decide, by decide, ?_⟩
  · rw [store_eq]
    exact Memory.putList_lists_self _ _
  · have hother : (entry.credential, entry.purpose) ≠ (later, Purpose.revocation) := by decide
    rw [store_eq]
    exact (Memory.index_byCredential_of_ne hother _).trans (Memory.empty_byCredential _)

theorem plays_findOrCreate_disturbed :
    Plays (findOrCreate .default issuer .revocation .one).run .empty
      [⟨withList, stamp 3, .findAvailable issuer .revocation .one⟩] withList (.ok list) := by
  refine (plays_read_bind_iff (reads_findAvailable _ _ _)).mpr
    ⟨withList, stamp 3, [], leads_withList, rfl, ?_⟩
  rw [findAvailable_withList]
  exact plays_pure_iff.mpr ⟨rfl, rfl, rfl⟩

theorem plays_nextIndex_disturbed :
    Plays (nextIndex list.id).run withList [⟨withList, stamp 3, .findList list.id⟩] withList
      (.ok (some 0)) := by
  have hget : Plays (getList list.id).run withList [⟨withList, stamp 3, .findList list.id⟩]
      withList (.ok list) := by
    refine (plays_read_bind_iff (reads_findList _)).mpr ⟨withList, stamp 3, [], .refl, rfl, ?_⟩
    rw [show withList.findList list.id = some list from withList_lists]
    exact plays_pure_iff.mpr ⟨rfl, rfl, rfl⟩
  exact plays_bind_iff.mpr (.inr ⟨list, _, [], withList, rfl, hget,
    plays_pure_iff.mpr ⟨rfl, rfl, rfl⟩⟩)

theorem plays_attempt_disturbed :
    ∃ m' e, Plays (attempt .default ⟨later, issuer, .revocation, .one⟩).run .empty
      (disturbed.drop 1) m' (.ok (some e)) := by
  have hchoose : Plays (chooseSlot .default ⟨later, issuer, .revocation, .one⟩).run .empty
      ((disturbed.drop 1).take 2) withList (.ok (some (list.id, 0))) := by
    refine plays_bind_iff.mpr (.inr ⟨list, _, [⟨withList, stamp 3, .findList list.id⟩], withList,
      rfl, plays_findOrCreate_disturbed, ?_⟩)
    exact plays_bind_iff.mpr (.inr ⟨some 0, _, [], withList, rfl, plays_nextIndex_disturbed,
      plays_pure_iff.mpr ⟨rfl, rfl, rfl⟩⟩)
  obtain ⟨m', e, hanswer⟩ : ∃ m' e, store.answer (stamp 3)
      (.createEntry (entryRequest ⟨later, issuer, .revocation, .one⟩ list.id 0)) = (.ok e, m') :=
    ⟨_, _, Memory.createEntry_of_allots allots_store (stamp 3)⟩
  have hname : store.Unnamed (stamp 3).fresh := unnamed (by decide) (by decide)
  refine ⟨m', e, plays_bind_iff.mpr (.inr ⟨some (list.id, 0), _,
    [⟨store, stamp 3, .createEntry (entryRequest ⟨later, issuer, .revocation, .one⟩ list.id 0)⟩],
    withList, rfl, hchoose, ?_⟩)⟩
  refine plays_lift_bind_iff.mpr ⟨store, stamp 3, [], leads_store, hname.fresh _, rfl, ?_⟩
  rw [hanswer]
  exact plays_pure_iff.mpr ⟨rfl, rfl, rfl⟩

theorem plays_disturbed :
    ∃ m' r, Plays (assign .default later issuer .revocation none).run .empty disturbed m' r := by
  obtain ⟨m', e, hattempt⟩ := plays_attempt_disturbed
  have hwidth : SlotWidth.ofRequest none = .ok .one := rfl
  refine ⟨m', .ok e, (plays_check_bind_iff hwidth).mpr
    ((plays_read_bind_iff (reads_findEntry _ _)).mpr
      ⟨.empty, stamp 3, disturbed.drop 1, .refl, rfl, ?_⟩)⟩
  have hnone : Memory.empty.findEntry later .revocation = none := by
    unfold Memory.findEntry
    rw [Memory.empty_byCredential]
  rw [hnone]
  exact plays_bind_iff.mpr (.inr ⟨some e, _, [], m', rfl, hattempt,
    plays_pure_iff.mpr ⟨rfl, rfl, rfl⟩⟩)

theorem not_undisturbed : ¬ Undisturbed .empty disturbed := by
  rintro ⟨-, heq, -⟩
  have hlists : withList.lists[list.id]? = none := by
    rw [show withList = Memory.empty from heq]
    exact Memory.empty_lists _
  cases hlists.symm.trans withList_lists

end Sample

/-- Others make a list and take its first slot between the turns of a call, which comes to an entry
even so; and it would come to one in the store that they leave. -/
theorem sample_assign_reliable :
    ¬ Undisturbed .empty Sample.disturbed ∧
      (∃ m' e, Plays (assign .default Sample.later Memory.Sample.issuer .revocation none).run .empty
        Sample.disturbed m' (.ok e)) ∧
      ∃ m' e, Alone (assign .default Sample.later Memory.Sample.issuer .revocation none).run
        Memory.Sample.store m' (.ok e) := by
  have hreliable : ∀ {m : Memory}, m.Reachable → AssignmentReliable .default m
      ⟨Sample.later, Memory.Sample.issuer, .revocation, .one⟩ none :=
    fun hm => assign_reliable Config.default_valid hm _ rfl
  refine ⟨Sample.not_undisturbed, ?_, ?_⟩
  · obtain ⟨m', r, hplays⟩ := Sample.plays_disturbed
    rcases (hreliable .refl).ends _ m' r hplays with ⟨e, rfl⟩ |
      ⟨-, first, parts, hturns, hparts, hlost⟩
    · exact ⟨m', e, hplays⟩
    · -- 32 lost attempts would have taken more turns
      have hcount := congrArg List.length hturns
      have hle := hlost.length_le
      rw [List.length_cons] at hcount
      have hfour : Sample.disturbed.length = 4 := rfl
      omega
  · exact (hreliable Memory.Sample.reachable).alone (fun _ => Memory.Sample.stamp 3)
      (Memory.Sample.unnamed (by decide) (by decide)).fresh

end Service

end StatusRegistry

import StatusRegistry.Proofs.Service.Contention
import StatusRegistry.Proofs.Service.Elsewhere
import StatusRegistry.Proofs.Store.Filling

/-!
# One assignment after another

Credentials that are assigned in a group one after another fill its lists one by one, whatever
others do elsewhere in the meantime.

* `Issued.findOrCreate`, `Begun.nextIndex`, `Issued.attempt`, `Issued.assign`: each service comes to
  the next slot, one lemma for each;
* `Issues`, `Issues.placed`: a run of assignments, and the slots that it takes;
* `issuance_dense`: indices count up from 0 and start again with each new list, and no list is made
  before the one before it is full;
* `Issued.exists_issues`: there are runs of any length.
-/

set_option autoImplicit false

namespace StatusRegistry

open Memory (Issued Begun)
open Service (Assignment)

theorem Config.Valid.capacity_pos {c : Config} (hc : c.Valid) : 0 < c.capacity.toNat :=
  Nat.lt_of_lt_of_le (by decide) (UInt64.le_iff_toNat_le.mp hc.minCapacity_le)

/-! ## The services -/

/-- The group that an assignment asks for. -/
def Service.Assignment.group (a : Assignment) : Group := ⟨a.issuer, a.purpose, a.width⟩

/-- A group in which an entry has just taken the next slot. -/
structure Took (c : Config) (a : Assignment) (kept : List CredentialId) (n : Nat)
    (ids : List ListId) (waiting : List CredentialId) (e : StatusEntry) (m : Memory) : Prop where
  issued : Issued c.capacity a.group kept (n + 1) ids waiting m
  length_eq : ids.length = (n + 1) ⌈/⌉ c.capacity.toNat
  credential_eq : e.credential = a.credential
  index_eq : e.index.toNat = n % c.capacity.toNat
  list_eq : ids[n / c.capacity.toNat]? = some e.list

variable {c : Config} {a : Assignment} {kept : List CredentialId} {n : Nat} {ids : List ListId}
  {waiting : List CredentialId} {m m' : Memory} {turns : List Turn}

theorem Memory.Begun.elsewhere {capacity : UInt64} {g : Group} {id : ListId}
    (h : Begun capacity g kept n ids waiting id m) (hothers : Elsewhere g kept m m') :
    Begun capacity g kept n ids waiting id m' :=
  ⟨h.issued.untouched (hothers.untouched h.issued.consistent), h.length_eq, h.current_eq⟩

theorem Memory.Issued.elsewhere {capacity : UInt64} {g : Group}
    (h : Issued capacity g kept n ids waiting m) (hothers : Elsewhere g kept m m') :
    Issued capacity g kept n ids waiting m' :=
  h.untouched (hothers.untouched h.consistent)

/-- If all lists are full, one more is made. -/
theorem Memory.Issued.createList (h : Issued c.capacity a.group kept n ids waiting m)
    (hc : c.Valid) (hfull : n % c.capacity.toNat = 0) (hlength : ids.length = n / c.capacity.toNat)
    {r : Except ServiceError StatusList}
    (hplays : Plays (Service.createList c (Service.groupRequest a.issuer a.purpose a.width)).run m
      turns m' r)
    (hgaps : Gaps (Elsewhere a.group kept) m turns) :
    ∃ l, r = .ok l ∧ Begun c.capacity a.group kept n (ids ++ [l.id]) waiting l.id m' := by
  obtain ⟨ttl, hplan⟩ := plan_of_valid hc a.issuer a.purpose a.width
  obtain ⟨before, stamp, -, hfresh, rfl, rfl, rfl⟩ :=
    Service.plays_ask_iff.mp ((Service.plays_check_bind_iff hplan).mp hplays)
  have hbefore := h.elsewhere hgaps.1
  have hm := Memory.answer_consistent hbefore.consistent hfresh
  obtain ⟨l, hanswer, -⟩ := Memory.createList_of_valid before a hc stamp
  obtain ⟨p, hp, rfl⟩ :=
    StatusList.create_eq_ok (Memory.createList_answer (congrArg Prod.fst hanswer)).1
  rw [hplan] at hp
  cases hp
  rw [hanswer] at hm ⊢
  refine ⟨_, rfl, hbefore.putList hfull hlength rfl rfl rfl hfresh hm, ?_, ?_⟩
  · rw [List.length_append, hlength, List.length_singleton]
  · rw [← hlength, List.getElem?_concat_length]

/-- The list that was begun is found, or one is made. -/
theorem Memory.Issued.findOrCreate (h : Issued c.capacity a.group kept n ids waiting m)
    (hc : c.Valid) (hlength : ids.length = n ⌈/⌉ c.capacity.toNat)
    {r : Except ServiceError StatusList}
    (hplays : Plays (Service.findOrCreate c a.issuer a.purpose a.width).run m turns m' r)
    (hgaps : Gaps (Elsewhere a.group kept) m turns) :
    ∃ l ids', r = .ok l ∧ ids <+: ids' ∧ Begun c.capacity a.group kept n ids' waiting l.id m' := by
  obtain ⟨before, stamp, rest, -, rfl, hrest⟩ :=
    (Service.plays_read_bind_iff (Service.reads_findAvailable _ _ _)).mp hplays
  have hbefore := h.elsewhere hgaps.1
  rcases hbefore.findAvailable_cases hlength with
    ⟨l, hfound, hnumber, hid⟩ | ⟨hfound, hfull, hlast⟩
  · rw [show before.findAvailable a.issuer a.purpose a.width = some l from hfound] at hrest
    obtain ⟨rfl, rfl, rfl⟩ := Service.plays_pure_iff.mp hrest
    exact ⟨l, ids, rfl, List.prefix_rfl, hbefore, hnumber, hid⟩
  · rw [show before.findAvailable a.issuer a.purpose a.width = none from hfound] at hrest
    obtain ⟨l, rfl, hbegun⟩ := hbefore.createList hc hfull hlast hrest hgaps.2
    exact ⟨l, ids ++ [l.id], rfl, List.prefix_append ids [l.id], hbegun⟩

/-- The list that was begun offers the next slot. -/
theorem Memory.Begun.nextIndex {id : ListId} (h : Begun c.capacity a.group kept n ids waiting id m)
    {r : Except ServiceError (Option UInt64)}
    (hplays : Plays (Service.nextIndex id).run m turns m' r)
    (hgaps : Gaps (Elsewhere a.group kept) m turns) :
    ∃ index, r = .ok (some index) ∧ index.toNat = n % c.capacity.toNat ∧
      Begun c.capacity a.group kept n ids waiting id m' := by
  obtain ⟨l, hl, rfl, -⟩ := h.issued.current h.current_eq
  have hkept : ∀ m', m.Leads m' → ∃ l', m'.lists[l.id]? = some l' := by
    intro m' hleads
    obtain ⟨l', hl', hsame, -⟩ := (hleads.extends h.issued.consistent).list hl
    exact ⟨l', by rw [← hsame.id_eq]; exact hl'⟩
  obtain ⟨stamp, found, rfl, -, hfound, rfl⟩ := Service.plays_nextIndex hkept hplays
  have hlater := h.elsewhere hgaps.1
  obtain ⟨l', hl', hid, -, hused, hroom⟩ := hlater.issued.current h.current_eq
  obtain rfl : l' = found := by
    rw [← hid, hl'] at hfound
    exact Option.some.inj hfound
  exact ⟨l'.used, by rw [if_pos hroom], hused, hlater⟩

theorem Memory.Issued.chooseSlot (h : Issued c.capacity a.group kept n ids waiting m) (hc : c.Valid)
    (hlength : ids.length = n ⌈/⌉ c.capacity.toNat)
    {r : Except ServiceError (Option (ListId × UInt64))}
    (hplays : Plays (Service.chooseSlot c a).run m turns m' r)
    (hgaps : Gaps (Elsewhere a.group kept) m turns) :
    ∃ id index ids', r = .ok (some (id, index)) ∧ index.toNat = n % c.capacity.toNat ∧
      ids <+: ids' ∧ Begun c.capacity a.group kept n ids' waiting id m' := by
  obtain ⟨l, m₁, rest, ⟨_, ids', heq, hprefix, hbegun⟩, h₁, hgaps₁⟩ :=
    Service.plays_bind_of_ok hplays hgaps (h.findOrCreate hc hlength)
      (by rintro _ _ ⟨_, _, ⟨⟩, _⟩)
  cases heq
  obtain ⟨_, m₂, rest', ⟨index, heq, hindex, hbegun'⟩, h₂, -⟩ :=
    Service.plays_bind_of_ok h₁ hgaps₁ hbegun.nextIndex (by rintro _ _ ⟨_, ⟨⟩, _⟩)
  cases heq
  obtain ⟨rfl, rfl, rfl⟩ := Service.plays_pure_iff.mp h₂
  exact ⟨l.id, index, ids', rfl, hindex, hprefix, hbegun'⟩

/-- The request for the next slot is granted. -/
theorem Memory.Begun.took {id : ListId} {index : UInt64}
    (h : Begun c.capacity a.group kept n ids (a.credential :: waiting) id m)
    (hindex : index.toNat = n % c.capacity.toNat) {stamp : Stamp}
    (hfresh : m.Fresh stamp.fresh (.createEntry (Service.entryRequest a id index))) :
    ∃ e, (m.answer stamp (.createEntry (Service.entryRequest a id index))).1 = .ok e ∧
      Took c a kept n ids waiting e
        (m.answer stamp (.createEntry (Service.entryRequest a id index))).2 := by
  obtain ⟨l, hl, rfl, hgroup, hused, hroom⟩ := h.issued.current h.current_eq
  have hm := Memory.answer_consistent h.issued.consistent hfresh
  have hindex' : index = l.used := UInt64.toNat_inj.mp (hindex.trans hused.symm)
  rcases Memory.createEntry_cases (r := Service.entryRequest a l.id index) hl rfl
    (congrArg Group.purpose hgroup) (congrArg Group.width hgroup) (UInt64.le_of_eq hindex') stamp
    with ⟨e, hanswer⟩ | ⟨-, hfull⟩ | ⟨-, id, hkey⟩
  · obtain ⟨l', hallots, rfl, hmemory⟩ := Memory.createEntry_answer hanswer
    obtain rfl : l = l' := Option.some.inj (hl.symm.trans hallots.list_eq)
    rw [hmemory] at hm ⊢
    refine ⟨_, hanswer, ?_, ?_, rfl, hused, h.current_eq⟩
    · exact h.issued.allotted hl hgroup h.current_eq hroom rfl hm
    · rw [h.length_eq, ceilDiv_succ h.issued.capacity_pos]
  · rw [hroom] at hfull
    cases hfull
  · have hnone := h.issued.waiting_none a.credential List.mem_cons_self
    exact absurd (hkey.symm.trans hnone) (by rintro ⟨⟩)

/-- **An attempt takes the next slot.** -/
theorem Memory.Issued.attempt
    (h : Issued c.capacity a.group kept n ids (a.credential :: waiting) m) (hc : c.Valid)
    (hlength : ids.length = n ⌈/⌉ c.capacity.toNat) {r : Except ServiceError (Option StatusEntry)}
    (hplays : Plays (Service.attempt c a).run m turns m' r)
    (hgaps : Gaps (Elsewhere a.group kept) m turns) :
    ∃ e ids', r = .ok (some e) ∧ ids <+: ids' ∧ Took c a kept n ids' waiting e m' := by
  obtain ⟨_, m₁, rest, ⟨id, index, ids', heq, hindex, hprefix, hbegun⟩, h₁, hgaps₁⟩ :=
    Service.plays_bind_of_ok hplays hgaps (h.chooseSlot hc hlength)
      (by rintro _ _ ⟨_, _, _, ⟨⟩, _⟩)
  cases heq
  obtain ⟨before, stamp, back, -, hfresh, rfl, h₂⟩ := Service.plays_lift_bind_iff.mp h₁
  obtain ⟨e, hanswer, htook⟩ := (hbegun.elsewhere hgaps₁.1).took hindex hfresh
  rw [hanswer] at h₂
  obtain ⟨rfl, rfl, rfl⟩ := Service.plays_pure_iff.mp h₂
  exact ⟨e, ids', rfl, hprefix, htook⟩

/-- **An assignment takes the next slot.** -/
theorem Memory.Issued.assign {x : CredentialId} {g : Group} {width : Option UInt32}
    (h : Issued c.capacity g kept n ids (x :: waiting) m) (hc : c.Valid)
    (hlength : ids.length = n ⌈/⌉ c.capacity.toNat)
    (hwidth : SlotWidth.ofRequest width = .ok g.width) {r : Except ServiceError StatusEntry}
    (hplays : Plays (Service.assign c x g.issuer g.purpose width).run m turns m' r)
    (hgaps : Gaps (Elsewhere g kept) m turns) :
    ∃ e ids', r = .ok e ∧ ids <+: ids' ∧
      Took c ⟨x, g.issuer, g.purpose, g.width⟩ kept n ids' waiting e m' := by
  obtain ⟨before, stamp, rest, -, rfl, hrest⟩ :=
    (Service.plays_read_bind_iff (Service.reads_findEntry _ _)).mp
      ((Service.plays_check_bind_iff hwidth).mp hplays)
  have hbefore := h.elsewhere hgaps.1
  have hnone := hbefore.waiting_none x List.mem_cons_self
  rw [hbefore.consistent.findEntry_eq_none_iff_key.mpr hnone] at hrest
  -- the first attempt is the last one
  obtain ⟨_, m₁, later, ⟨e, ids', heq, hprefix, htook⟩, h₁, -⟩ :=
    Service.plays_bind_of_ok hrest hgaps.2
      (hbefore.attempt (a := ⟨x, g.issuer, g.purpose, g.width⟩) hc hlength)
      (by rintro _ _ ⟨_, _, ⟨⟩, _⟩)
  cases heq
  obtain ⟨rfl, rfl, rfl⟩ := Service.plays_pure_iff.mp h₁
  exact ⟨e, ids', rfl, hprefix, htook⟩

/-! ## A run of assignments -/

/-- Credentials are assigned in a group one after another, each of them asking for the width of the
group in its own way.  Before the run, after it and between any two turns of it, others may do
whatever they do elsewhere. -/
inductive Issues (c : Config) (g : Group) (kept : List CredentialId) :
    List CredentialId → Memory → List (Except ServiceError StatusEntry) → Memory → Prop where
  | nil {m m' : Memory} (others : Elsewhere g kept m m') : Issues c g kept [] m [] m'
  | cons {x : CredentialId} {xs : List CredentialId} {width : Option UInt32} {m m₁ m' : Memory}
      {turns : List Turn} {r : Except ServiceError StatusEntry}
      {results : List (Except ServiceError StatusEntry)}
      (width_eq : SlotWidth.ofRequest width = .ok g.width)
      (call : Plays (Service.assign c x g.issuer g.purpose width).run m turns m₁ r)
      (gaps : Gaps (Elsewhere g kept) m turns) (rest : Issues c g kept xs m₁ results m') :
      Issues c g kept (x :: xs) m (r :: results) m'

/-- The entries of a run take the slots from number `n` on, one after another, in the lists of
`ids`. -/
def Placed (size n : Nat) (ids : List ListId) (entries : List StatusEntry) : Prop :=
  ∀ k e, entries[k]? = some e →
    e.index.toNat = (n + k) % size ∧ ids[(n + k) / size]? = some e.list

theorem Placed.cons {size : Nat} {entries : List StatusEntry} {e : StatusEntry}
    (hindex : e.index.toNat = n % size) (hlist : ids[n / size]? = some e.list)
    (h : Placed size (n + 1) ids entries) : Placed size n ids (e :: entries) := by
  intro k e' he'
  cases k with
  | zero =>
    cases he'
    exact ⟨hindex, hlist⟩
  | succ k =>
    rw [← Nat.add_assoc, Nat.add_right_comm]
    exact h k e' he'

/-- **Every assignment of a run takes the next slot.** -/
theorem Issues.placed {g : Group} {results : List (Except ServiceError StatusEntry)}
    (hrun : Issues c g kept waiting m results m') (hc : c.Valid)
    (h : Issued c.capacity g kept n ids waiting m) (hlength : ids.length = n ⌈/⌉ c.capacity.toNat) :
    ∃ entries ids', results = entries.map .ok ∧ entries.map StatusEntry.credential = waiting ∧
      ids <+: ids' ∧ Placed c.capacity.toNat n ids' entries ∧
      ids'.length = (n + waiting.length) ⌈/⌉ c.capacity.toNat ∧
      Issued c.capacity g kept (n + waiting.length) ids' [] m' := by
  induction hrun generalizing n ids with
  | nil others =>
    refine ⟨[], ids, rfl, rfl, List.prefix_rfl, ?_, hlength, h.elsewhere others⟩
    intro k e he
    cases he
  | @cons x xs width m m₁ m' turns r results width_eq call gaps _ ih =>
    obtain ⟨e, ids₁, rfl, hprefix, htook⟩ := h.assign hc hlength width_eq call gaps
    obtain ⟨entries, ids', rfl, hcredentials, hprefix', hplaced, hlength', hissued⟩ :=
      ih htook.issued htook.length_eq
    have hnumber : n + (x :: xs).length = n + 1 + xs.length := by
      rw [List.length_cons, Nat.add_right_comm, Nat.add_assoc]
    have hlist : ids'[n / c.capacity.toNat]? = some e.list := by
      obtain ⟨tail, rfl⟩ := hprefix'
      have hlt := (List.getElem?_eq_some_iff.mp htook.list_eq).1
      rw [List.getElem?_append_left hlt, htook.list_eq]
    rw [hnumber]
    refine ⟨e :: entries, ids', rfl, ?_, hprefix.trans hprefix', hplaced.cons htook.index_eq hlist,
      hlength', hissued⟩
    rw [List.map_cons, hcredentials, htook.credential_eq]

/-- The credentials of a run have their slots in a group one after another, list by list. -/
structure Dense (size : Nat) (g : Group) (credentials : List CredentialId)
    (entries : List StatusEntry) (m : Memory) : Prop where
  /-- There is one entry for each credential, in the same order. -/
  credentials_eq : entries.map StatusEntry.credential = credentials
  /-- The indices count up, and start again at 0 after the last slot of a list. -/
  index_eq : ∀ k e, entries[k]? = some e → e.index.toNat = k % size
  /-- A new list is taken exactly where the indices start again. -/
  list_eq_iff : ∀ k k' e e', entries[k]? = some e → entries[k']? = some e' →
    (e.list = e'.list ↔ k / size = k' / size)
  /-- The lists are those of the group. -/
  mem_groupIds : ∀ e ∈ entries, e.list ∈ m.groupIds g
  /-- No more lists are made than are needed. -/
  length_groupIds : (m.groupIds g).length = credentials.length ⌈/⌉ size

/-- **Credentials that are assigned in a group one after another take its slots without gaps, and
the group comes to have as many lists as that takes.** -/
theorem issuance_dense {c : Config} (hc : c.Valid) {g : Group} {m m' : Memory} (hm : m.Reachable)
    (hempty : m.groupIds g = []) {credentials : List CredentialId} (hnodup : credentials.Nodup)
    (hnew : ∀ x ∈ credentials, m.findEntry x g.purpose = none)
    {results : List (Except ServiceError StatusEntry)}
    (h : Issues c g credentials credentials m results m') :
    ∃ entries, results = entries.map .ok ∧
      Dense c.capacity.toNat g credentials entries m' := by
  have hstart := Issued.start hm.consistent hc.capacity_pos hempty hnodup hnew
  obtain ⟨entries, ids, rfl, hcredentials, -, hplaced, hlength, hend⟩ :=
    h.placed hc hstart (zero_ceilDiv _).symm
  simp only [Placed, Nat.zero_add] at hplaced hlength
  refine ⟨entries, rfl, hcredentials, fun k e he => (hplaced k e he).1, ?_, ?_, ?_⟩
  · intro k k' e e' he he'
    obtain ⟨-, hlist⟩ := hplaced k e he
    obtain ⟨-, hlist'⟩ := hplaced k' e' he'
    rw [← List.getElem?_inj (List.getElem?_eq_some_iff.mp hlist).1 hend.nodup, hlist, hlist',
      Option.some.injEq]
  · intro e he
    obtain ⟨k, hk⟩ := List.mem_iff_getElem?.mp he
    have hmem := hend.mem_ids_iff.mp (List.mem_of_getElem? (hplaced k e hk).2)
    exact Memory.mem_groupIds.mpr (Memory.isSome_slots_iff.mp hmem)
  · rw [Memory.length_groupIds hend.nodup fun _ => hend.mem_ids_iff, hlength]

/-! ## Runs of any length -/

/-- What others did before a run belongs to it. -/
theorem Issues.after_others {g : Group} {m₁ : Memory}
    {results : List (Except ServiceError StatusEntry)} (hm : m.Consistent)
    (hothers : Elsewhere g kept m m₁) (h : Issues c g kept waiting m₁ results m') :
    Issues c g kept waiting m results m' := by
  have hleads := (hothers.untouched hm).leads
  cases h with
  | nil others => exact .nil (hothers.trans others)
  | cons width_eq call gaps rest =>
    -- an assignment has a first turn, and the others go on up to that
    obtain ⟨before, stamp, turns, -, rfl, -⟩ :=
      (Service.plays_read_bind_iff (Service.reads_findEntry _ _)).mp
        ((Service.plays_check_bind_iff width_eq).mp call)
    cases call.course with
    | cons leads fresh course =>
      exact .cons width_eq ⟨.cons (hleads.trans leads) fresh course, call.log⟩
        ⟨hothers.trans gaps.1, gaps.2⟩ rest

/-- **There is a run for any credentials**, in which each of them is given a code as soon as it has
its entry.  It takes as many new names as there are credentials, as an assignment needs at most one
name for a list and one for an entry. -/
theorem Memory.Issued.exists_issues {g : Group} {width : Option UInt32}
    (h : Issued c.capacity g kept n ids waiting m) (hc : c.Valid)
    (hlength : ids.length = n ⌈/⌉ c.capacity.toNat)
    (hwidth : SlotWidth.ofRequest width = .ok g.width) (now : Timestamp) (code : UInt32)
    {names : List Uuid} (hnodup : names.Nodup) (hcount : names.length = waiting.length)
    (hnames : ∀ name ∈ names, m.Unnamed name) :
    ∃ results m', Issues c g kept waiting m results m' := by
  induction waiting generalizing n ids m names with
  | nil => exact ⟨[], m, .nil .refl⟩
  | cons x xs ih =>
    cases names with
    | nil => cases hcount
    | cons name names =>
      obtain ⟨hname, hnodup⟩ := List.nodup_cons.mp hnodup
      have hfresh : ∀ q, m.Fresh (Stamp.mk now name).fresh q :=
        (hnames name List.mem_cons_self).fresh
      obtain ⟨m₁, e, ⟨turns, hplays, hundisturbed⟩, htakes⟩ :=
        Service.alone_assign (a := ⟨x, g.issuer, g.purpose, g.width⟩) h.consistent hc hwidth hfresh
          (h.waiting_none x List.mem_cons_self)
      have hgaps := hundisturbed.gaps (R := Elsewhere g kept) fun _ => .refl
      obtain ⟨_, ids', heq, -, htook⟩ := h.assign hc hlength hwidth hplays hgaps
      cases heq
      -- the change of its status comes before the next credential
      have hm₁ := htook.issued.consistent
      have hothers : Elsewhere g kept m₁
          (m₁.answer ⟨now, name⟩ (.updateStatus ⟨x, code, g.purpose, none⟩)).2 :=
        .operation .refl _ _ trivial
      have hrest : ∀ other ∈ names, (m₁.answer ⟨now, name⟩
          (.updateStatus ⟨x, code, g.purpose, none⟩)).2.Unnamed other := by
        intro other hother
        have hne : name ≠ other := fun heq => hname (heq ▸ hother)
        exact (htakes other (hnames other (List.mem_cons_of_mem name hother))
          fun _ => hne).answer hm₁ hne _
      obtain ⟨results, m', hrun⟩ := ih (htook.issued.elsewhere hothers) htook.length_eq hnodup
        (Nat.succ.inj hcount) hrest
      exact ⟨.ok e :: results, m', .cons hwidth hplays hgaps (hrun.after_others hm₁ hothers)⟩

namespace Issues.Sample

open Memory.Sample

/-- A group that has no list in the sample store, which has one for revocations. -/
def suspensions : Group := ⟨issuer, .suspension, .one⟩

theorem groupIds_store : store.groupIds suspensions = [] := by
  rw [List.eq_nil_iff_forall_not_mem]
  intro id hid
  obtain ⟨l, hl, hgroup⟩ := Memory.mem_groupIds.mp hid
  have hstored := reachable.consistent.storesList hl
  rw [store_eq] at hstored
  rcases Memory.storesList_putList.mp hstored with rfl | ⟨-, hstored⟩
  · cases hgroup
  · rw [withList_eq] at hstored
    rcases Memory.storesList_putList.mp hstored with rfl | ⟨-, hstored⟩
    · cases hgroup
    · rw [Memory.StoresList, Memory.empty_lists] at hstored
      cases hstored

theorem key_store (x : CredentialId) : store.byCredential[(x, Purpose.suspension)]? = none := by
  rw [store_eq, Memory.keys_allotted (by rintro ⟨-, ⟨⟩⟩)]
  exact Memory.empty_byCredential _

theorem notBlank (k : Nat) :
    Text.blank ("urn:" ++ String.ofList (List.replicate k 'x')) = false := by
  rw [Text.blank, String.toList_append, List.all_append, Bool.and_eq_false_iff]
  exact .inl (by decide)

/-- The credential with a number, which is named by so many letters. -/
def numbered (k : Nat) : CredentialId := ⟨_, notBlank k⟩

theorem numbered_injective : Function.Injective numbered := by
  intro k k' heq
  have hlength := congrArg (fun x : CredentialId => x.text.length) heq
  simp only [numbered, String.length_append, String.length_ofList, List.length_replicate]
    at hlength
  exact Nat.add_left_cancel hlength

/-- So many credentials, all different. -/
def credentials (count : Nat) : List CredentialId := (List.range count).map numbered

theorem nodup_credentials (count : Nat) : (credentials count).Nodup :=
  List.nodup_range.map numbered_injective

/-- A UUID with a small number. -/
def name (k : Nat) : Uuid := ⟨BitVec.ofNat 128 k⟩

theorem name_inj {k k' : Nat} (hk : k < 2 ^ 64) (hk' : k' < 2 ^ 64) (h : name k = name k') :
    k = k' := by
  have hnumber := congrArg BitVec.toNat (Uuid.mk.inj h)
  simp only [BitVec.toNat_ofNat] at hnumber
  omega

/-- So many names, all different and none of them taken in the sample store. -/
def names (count : Nat) : List Uuid := (List.range count).map fun k => name (k + 3)

theorem nodup_names {count : Nat} (hcount : count < 2 ^ 32) : (names count).Nodup := by
  refine List.nodup_range.map_on fun k hk k' hk' heq => ?_
  rw [List.mem_range] at hk hk'
  exact Nat.add_right_cancel (name_inj (by omega) (by omega) heq)

theorem unnamed_of_mem_names {count : Nat} (hcount : count < 2 ^ 32) {other : Uuid}
    (hother : other ∈ names count) : store.Unnamed other := by
  obtain ⟨k, hk, rfl⟩ := List.mem_map.mp hother
  rw [List.mem_range] at hk
  have hne : ∀ k' < 3, name (k + 3) ≠ name k' := by
    intro k' hk' heq
    have hnumber := name_inj (by omega) (by omega) heq
    omega
  exact unnamed (hne 1 (by decide)) (hne 2 (by decide))

end Issues.Sample

open Issues.Sample in
/-- In the sample store so many credentials are assigned in a group without lists, and suspended at
once, that the last one of them is the first one of a second list. -/
theorem sample_issuance_dense :
    ∃ entries m', Issues .default suspensions (credentials 131073) (credentials 131073)
        Memory.Sample.store (entries.map .ok) m' ∧
      Dense Config.default.capacity.toNat suspensions (credentials 131073) entries m' ∧
      (m'.groupIds suspensions).length = 2 := by
  have hm := Memory.Sample.reachable.consistent
  have hnew : ∀ x ∈ credentials 131073, Memory.Sample.store.findEntry x .suspension = none :=
    fun x _ => hm.findEntry_eq_none_iff_key.mpr (key_store x)
  have hstart : Issued Config.default.capacity suspensions (credentials 131073) 0 []
      (credentials 131073) Memory.Sample.store :=
    .start hm Config.default_valid.capacity_pos groupIds_store (nodup_credentials 131073) hnew
  have hwidth : SlotWidth.ofRequest none = .ok suspensions.width := rfl
  have hcount : (credentials 131073).length = 131073 := by
    rw [credentials, List.length_map, List.length_range]
  have hnames : (names 131073).length = (credentials 131073).length := by
    rw [hcount, names, List.length_map, List.length_range]
  obtain ⟨results, m', hrun⟩ := hstart.exists_issues Config.default_valid (zero_ceilDiv _).symm
    hwidth ⟨.epoch⟩ 1 (nodup_names (by decide)) hnames
    fun _ => unnamed_of_mem_names (by decide)
  obtain ⟨entries, rfl, hdense⟩ := issuance_dense Config.default_valid Memory.Sample.reachable
    groupIds_store (nodup_credentials 131073) hnew hrun
  refine ⟨entries, m', hrun, hdense, ?_⟩
  rw [hdense.length_groupIds, hcount]
  exact ceilDiv_succ (n := 131072) Config.default_valid.capacity_pos

end StatusRegistry

import StatusRegistry.Proofs.Service.Assignment

/-!
# Calls that take turns

Any number of calls of the services over one store in memory, started at any time and taking turns
between their steps in any order.

* `System.Step`: a call starts, has one operation of the store, or reads the clock;
* `System.Sound`: what every order of steps keeps, one lemma for each kind of step;
* `assignments_separate`: assignments for different credentials or purposes never share a slot,
  those for one credential and purpose take one slot together, and a slot that is taken lies in
  a list of the group that was asked for.
-/

set_option autoImplicit false

namespace StatusRegistry

open Service (Assignment Asks MayAssign Settled)

/-! ## Calls -/

/-- A call of a service, with what its caller gives. -/
inductive Call where
  | assign (credential : CredentialId) (issuer : IssuerId) (purpose : Purpose)
      (width : Option UInt32)
  | updateStatus (update : StatusUpdate)
  | updateSettings (list : ListId) (ttl : Option Int64) (metadata : Option Json.Members)
  | createList (request : ListRequest)
  | findOrCreate (issuer : IssuerId) (purpose : Purpose) (width : SlotWidth)
  | nextIndex (list : ListId)
  | createEntry (request : EntryRequest)
  | findEntry (credential : CredentialId) (purpose : Purpose)
  | findList (list : ListId)
  | listCredential (list : ListId) (issuer : Issuer)

namespace Call

/-- What a call ends with. -/
abbrev Result : Call → Type
  | assign _ _ _ _ => Except ServiceError StatusEntry
  | updateStatus _ => UpdateResult
  | updateSettings _ _ _ => Except ServiceError StatusList
  | createList _ => Except ServiceError StatusList
  | findOrCreate _ _ _ => Except ServiceError StatusList
  | nextIndex _ => Except ServiceError (Option UInt64)
  | createEntry _ => Except ServiceError StatusEntry
  | findEntry _ _ => Except ServiceError (Option StatusEntry)
  | findList _ => Except ServiceError (Option StatusList)
  | listCredential _ _ => Except ServiceError (Option ListCredential)

/-- The program of a call. -/
def program (c : Config) : (call : Call) → Program call.Result
  | assign credential issuer purpose width =>
    (Service.assign c credential issuer purpose width).run
  | updateStatus u => Service.updateStatus u
  | updateSettings list ttl metadata => (Service.updateSettings list ttl metadata).run
  | createList r => (Service.createList c r).run
  | findOrCreate issuer purpose width => (Service.findOrCreate c issuer purpose width).run
  | nextIndex list => (Service.nextIndex list).run
  | createEntry r => (Service.createEntry r).run
  | findEntry credential purpose => (Service.findEntry credential purpose).run
  | findList list => (Service.findList list).run
  | listCredential list issuer => (Service.listCredential c list issuer).run

/-- What a call may ask for; only of assignments it matters. -/
def May : Call → View → StoreRequest → Prop
  | assign credential issuer purpose width => fun v q =>
    ∃ a, Asks credential issuer purpose width a ∧ MayAssign a v q
  | _ => fun _ _ => True

/-- What a call may end with; only of assignments it matters. -/
def Good : (call : Call) → View → call.Result → Prop
  | assign credential issuer purpose width => fun v result =>
    ∀ e, result = .ok e → ∃ a, Asks credential issuer purpose width a ∧ Settled a v e
  | updateStatus _ => fun _ _ => True
  | updateSettings _ _ _ => fun _ _ => True
  | createList _ => fun _ _ => True
  | findOrCreate _ _ _ => fun _ _ => True
  | nextIndex _ => fun _ _ => True
  | createEntry _ => fun _ _ => True
  | findEntry _ _ => fun _ _ => True
  | findList _ => fun _ _ => True
  | listCredential _ _ => fun _ _ => True

/-- What is known of an entry that was made for a call: of an assignment, that it is for the
credential and lies in a list of the group. -/
def Owns : Call → Memory → StatusEntry → Prop
  | assign credential issuer purpose width => fun m e =>
    ∃ a, Asks credential issuer purpose width a ∧ e.credential = a.credential ∧
      e.purpose = a.purpose ∧ e.width = a.width ∧ m.Offers a e.list
  | _ => fun _ _ => True

theorem program_keeps (c : Config) (call : Call) {v : View} (hmade : v.made = []) :
    (call.program c).Keeps call.May call.Good v := by
  cases call with
  | assign credential issuer purpose width =>
    exact Service.assign_keeps credential issuer purpose width hmade
  | updateStatus u => exact Program.keeps_any _ v
  | updateSettings list ttl metadata => exact Program.keeps_any _ v
  | createList r => exact Program.keeps_any _ v
  | findOrCreate issuer purpose width => exact Program.keeps_any _ v
  | nextIndex list => exact Program.keeps_any _ v
  | createEntry r => exact Program.keeps_any _ v
  | findEntry credential purpose => exact Program.keeps_any _ v
  | findList list => exact Program.keeps_any _ v
  | listCredential list issuer => exact Program.keeps_any _ v

theorem Owns.extends {call : Call} {m m' : Memory} {e : StatusEntry} (h : call.Owns m e)
    (hm : m.Extends m') : call.Owns m' e := by
  cases call with
  | assign credential issuer purpose width =>
    obtain ⟨a, hasks, hcredential, hpurpose, hwidth, hoffers⟩ := h
    exact ⟨a, hasks, hcredential, hpurpose, hwidth, hm.offers hoffers⟩
  | _ => trivial

/-- An entry that is made for a call is one that the call may ask for. -/
theorem owns_entryIn {call : Call} {v : View} {r : EntryRequest} {l : StatusList} {stamp : Stamp}
    (h : call.May v (.createEntry r)) : call.Owns v.memory (Memory.entryIn l r stamp) := by
  cases call with
  | assign credential issuer purpose width =>
    obtain ⟨a, hasks, -, hcredential, hpurpose, hwidth, hoffers⟩ := h
    exact ⟨a, hasks, hcredential, hpurpose, hwidth, hoffers⟩
  | _ => trivial

end Call

/-! ## Systems -/

/-- A call in progress: the rest of its program. -/
structure Thread where
  call : Call
  rest : Program call.Result

/-- Calls in progress over one store.  The entries that were made are noted down with the number
of the call that each was made for. -/
structure System where
  memory : Memory
  threads : List Thread
  made : List (Nat × StatusEntry)

namespace System

/-- A store that holds nothing, before any call. -/
def initial : System := ⟨.empty, [], []⟩

/-- The entries that were made for a call. -/
def madeFor (s : System) (i : Nat) : List StatusEntry :=
  (s.made.filter fun g => g.1 == i).map Prod.snd

/-- The number of slots that were taken for a credential and purpose. -/
def taken (s : System) (credential : CredentialId) (purpose : Purpose) : Nat :=
  s.made.countP fun g => decide (g.2.credential = credential ∧ g.2.purpose = purpose)

/-- The system after a call has started. -/
def started (s : System) (c : Config) (call : Call) : System :=
  { s with threads := s.threads ++ [⟨call, call.program c⟩] }

/-- The system after an operation of a call. -/
def operated (s : System) (i : Nat) (call : Call) (stamp : Stamp) (q : StoreRequest)
    (next : q.Answer → Program call.Result) : System :=
  { memory := (s.memory.answer stamp q).2
    threads := s.threads.set i ⟨call, next (s.memory.answer stamp q).1⟩
    made := s.made ++ (q.made (s.memory.answer stamp q).1).map fun e => (i, e) }

/-- The system after a call has read the clock. -/
def timed (s : System) (i : Nat) (call : Call) (rest : Program call.Result) : System :=
  { s with threads := s.threads.set i ⟨call, rest⟩ }

/-- One step: a call starts, or a call has its turn. -/
inductive Step (s : System) : System → Prop
  | start (c : Config) (call : Call) : Step s (s.started c call)
  | operate {i : Nat} {call : Call} {q : StoreRequest} {next : q.Answer → Program call.Result}
      (stamp : Stamp) (turn : s.threads[i]? = some ⟨call, .ask q next⟩)
      (fresh : s.memory.Fresh stamp.fresh q) : Step s (s.operated i call stamp q next)
  | time {i : Nat} {call : Call} {next : Timestamp → Program call.Result} (now : Timestamp)
      (turn : s.threads[i]? = some ⟨call, .clock next⟩) : Step s (s.timed i call (next now))

/-- The systems that any steps lead to. -/
inductive Follows (s : System) : System → Prop
  | refl : Follows s s
  | step {s' s'' : System} (follows : Follows s s') (step : Step s' s'') : Follows s s''

/-- The systems that any steps lead to from an empty store. -/
def Run (s : System) : Prop := Follows initial s

/-- A call has ended with a result. -/
def Returns (s : System) (i : Nat) (call : Call) (result : call.Result) : Prop :=
  s.threads[i]? = some ⟨call, .done result⟩

/-! ## What every order of steps keeps -/

/-- The store as a call sees it. -/
def view (s : System) (h : s.memory.Consistent) (i : Nat) : View := ⟨s.memory, h, s.madeFor i⟩

/-- What every order of steps keeps. -/
structure Sound (s : System) : Prop where
  reachable : s.memory.Reachable
  keeps : ∀ {i : Nat} {call : Call} {rest : Program call.Result},
    s.threads[i]? = some ⟨call, rest⟩ →
      rest.Keeps call.May call.Good (s.view reachable.consistent i)
  made_lt : ∀ {i e}, (i, e) ∈ s.made → i < s.threads.length
  made_stored : ∀ {i e}, (i, e) ∈ s.made →
    e.status = 0 ∧ ∃ stored, s.memory.StoresEntry stored ∧ e.Same stored
  owns : ∀ {i : Nat} {e : StatusEntry} {call : Call} {rest : Program call.Result},
    (i, e) ∈ s.made → s.threads[i]? = some ⟨call, rest⟩ → call.Owns s.memory e
  taken_eq : ∀ credential purpose, s.taken credential purpose =
    if (s.memory.byCredential[(credential, purpose)]?).isSome then 1 else 0

theorem mem_madeFor {s : System} {i : Nat} {e : StatusEntry} :
    e ∈ s.madeFor i ↔ (i, e) ∈ s.made := by
  simp [madeFor]

theorem initial_sound : initial.Sound := by
  refine ⟨.refl, ?_, ?_, ?_, ?_, ?_⟩
  · intro i call rest h
    simp [initial] at h
  · intro i e h
    simp [initial] at h
  · intro i e h
    simp [initial] at h
  · intro i e call rest h
    simp [initial] at h
  · intro credential purpose
    simp [initial, taken]

/-! ## A call starts -/

/-- A call in progress is one that was there before, or the new one. -/
theorem thread_started {s : System} {c : Config} {call : Call} {i : Nat} {t : Thread}
    (h : (s.started c call).threads[i]? = some t) :
    s.threads[i]? = some t ∨ i = s.threads.length ∧ t = ⟨call, call.program c⟩ := by
  simp only [started, List.getElem?_append] at h
  split at h
  · exact .inl h
  · rename_i hi
    obtain ⟨hlt, heq⟩ := List.getElem?_eq_some_iff.mp h
    simp only [List.length_singleton] at hlt
    refine .inr ⟨by omega, ?_⟩
    rw [← heq]
    simp

theorem Sound.started {s : System} (h : s.Sound) (c : Config) (call : Call) :
    (s.started c call).Sound := by
  have hnone : s.madeFor s.threads.length = [] := by
    rw [List.eq_nil_iff_forall_not_mem]
    intro e he
    exact absurd (h.made_lt (mem_madeFor.mp he)) (Nat.lt_irrefl _)
  refine ⟨h.reachable, ?_, ?_, h.made_stored, ?_, h.taken_eq⟩
  · intro i call' rest ht
    rcases thread_started ht with ht | ⟨rfl, heq⟩
    · exact h.keeps ht
    · cases heq
      exact call.program_keeps c hnone
  · intro i e he
    have hlt := h.made_lt he
    simp only [System.started, List.length_append]
    omega
  · intro i e call' rest he ht
    rcases thread_started ht with ht | ⟨rfl, -⟩
    · exact h.owns he ht
    · exact absurd (h.made_lt he) (Nat.lt_irrefl _)

/-! ## A call has an operation -/

/-- A call in progress is the one that had its turn, or it is as it was. -/
theorem thread_cases {threads : List Thread} {i j : Nat} {t t' : Thread}
    (h : (threads.set i t)[j]? = some t') :
    i = j ∧ t' = t ∨ i ≠ j ∧ threads[j]? = some t' := by
  rw [List.getElem?_set] at h
  split at h
  · rename_i hij
    split at h
    · exact .inl ⟨hij, (Option.some.inj h).symm⟩
    · cases h
  · rename_i hij
    exact .inr ⟨hij, h⟩

section Operation

variable {s : System} {i : Nat} {call : Call} {q : StoreRequest}
  {next : q.Answer → Program call.Result} {stamp : Stamp}

theorem mem_made_operated {j : Nat} {e : StatusEntry} :
    (j, e) ∈ (s.operated i call stamp q next).made ↔
      (j, e) ∈ s.made ∨ j = i ∧ e ∈ q.made (s.memory.answer stamp q).1 := by
  simp only [operated, List.mem_append, List.mem_map, Prod.mk.injEq]
  constructor
  · rintro (h | ⟨e', he', rfl, rfl⟩)
    · exact .inl h
    · exact .inr ⟨rfl, he'⟩
  · rintro (h | ⟨rfl, he⟩)
    · exact .inl h
    · exact .inr ⟨e, he, rfl, rfl⟩

theorem madeFor_operated_self :
    (s.operated i call stamp q next).madeFor i =
      s.madeFor i ++ q.made (s.memory.answer stamp q).1 := by
  simp [operated, madeFor, List.filter_append, List.filter_map, Function.comp_def]

theorem madeFor_operated_of_ne {j : Nat} (h : i ≠ j) :
    (s.operated i call stamp q next).madeFor j = s.madeFor j := by
  simp [operated, madeFor, List.filter_append, h]

end Operation

/-- The slots that were taken after an operation: one more for the credential and purpose of an
entry that was made. -/
theorem taken_operated {s : System} {i : Nat} {call : Call} {q : StoreRequest}
    {next : q.Answer → Program call.Result} {stamp : Stamp} (credential : CredentialId)
    (purpose : Purpose)
    (h : s.taken credential purpose =
      if (s.memory.byCredential[(credential, purpose)]?).isSome then 1 else 0) :
    (s.operated i call stamp q next).taken credential purpose =
      if ((s.memory.answer stamp q).2.byCredential[(credential, purpose)]?).isSome then 1
      else 0 := by
  have htaken : (s.operated i call stamp q next).taken credential purpose =
      s.taken credential purpose + (q.made (s.memory.answer stamp q).1).countP fun e =>
        decide (e.credential = credential ∧ e.purpose = purpose) := by
    simp only [taken, operated, List.countP_append, List.countP_map, Function.comp_def]
  rw [htaken, h]
  rcases Memory.answer_made s.memory stamp q with ⟨hmade, htable⟩ | ⟨r, l, -, hallots, hmade, hm⟩
  · rw [hmade, htable]
    simp
  · rw [hmade, hm]
    by_cases hkey : (r.credential, r.purpose) = (credential, purpose)
    · have hnew : (s.memory.allotted l r stamp).byCredential[(credential, purpose)]? =
          some ⟨stamp.fresh⟩ := by
        rw [← hkey]
        exact Memory.index_byCredential_self _ (Memory.entryIn l r stamp)
      rw [hnew, ← hkey, hallots.unassigned]
      simp only [Prod.mk.injEq] at hkey
      simp [Memory.entryIn, StatusEntry.create, hkey]
    · have hold : (s.memory.allotted l r stamp).byCredential[(credential, purpose)]? =
          s.memory.byCredential[(credential, purpose)]? :=
        Memory.index_byCredential_of_ne (e := Memory.entryIn l r stamp) hkey _
      have hother : ¬ (r.credential = credential ∧ r.purpose = purpose) := by
        rintro ⟨rfl, rfl⟩
        exact hkey rfl
      rw [hold]
      simp [Memory.entryIn, StatusEntry.create, hother]

/-- An entry that an operation made is the next one of its list. -/
theorem stored_of_mem_made {m : Memory} {stamp : Stamp} {q : StoreRequest}
    (fresh : m.Fresh stamp.fresh q) {e : StatusEntry} (he : e ∈ q.made (m.answer stamp q).1) :
    ∃ r l, q = .createEntry r ∧ e = Memory.entryIn l r stamp ∧
      (m.answer stamp q).2.StoresEntry e := by
  rcases Memory.answer_made m stamp q with ⟨hmade, -⟩ | ⟨r, l, hq, hallots, hmade, hm⟩
  · rw [hmade] at he
    cases he
  · rw [hmade, List.mem_singleton] at he
    subst hq
    refine ⟨r, l, rfl, he, ?_⟩
    rw [hm]
    exact (Memory.storesEntry_allotted fresh).mpr (.inl he)

theorem Sound.operated {s : System} (h : s.Sound) {i : Nat} {call : Call} {q : StoreRequest}
    {next : q.Answer → Program call.Result} {stamp : Stamp}
    (turn : s.threads[i]? = some ⟨call, .ask q next⟩) (fresh : s.memory.Fresh stamp.fresh q) :
    (s.operated i call stamp q next).Sound := by
  have hconsistent := h.reachable.consistent
  have hreachable : (s.operated i call stamp q next).memory.Reachable :=
    .step stamp q h.reachable fresh
  have hextends : s.memory.Extends (s.operated i call stamp q next).memory :=
    Memory.answer_extends hconsistent fresh
  obtain ⟨hmay, hnext⟩ := h.keeps turn (s.view hconsistent i) (.refl _)
  refine ⟨hreachable, ?_, ?_, ?_, ?_, ?_⟩
  · intro j call' rest ht
    rcases thread_cases ht with ⟨rfl, heq⟩ | ⟨hij, ht⟩
    · cases heq
      have hview : (s.operated i call stamp q next).view hreachable.consistent i =
          (s.view hconsistent i).after stamp q fresh := by
        simp only [view, View.after, View.mk.injEq]
        exact ⟨rfl, madeFor_operated_self⟩
      rw [hview]
      exact hnext stamp fresh
    · apply (h.keeps ht).leads
      exact ⟨.step stamp q .refl fresh, madeFor_operated_of_ne hij⟩
  · intro j e he
    show j < (s.threads.set i _).length
    rw [List.length_set]
    rcases mem_made_operated.mp he with he | ⟨rfl, -⟩
    · exact h.made_lt he
    · exact (List.getElem?_eq_some_iff.mp turn).1
  · intro j e he
    rcases mem_made_operated.mp he with he | ⟨-, he⟩
    · obtain ⟨hzero, stored, hstored, hsame⟩ := h.made_stored he
      obtain ⟨stored', hstored', hsame'⟩ := hextends.entry hstored
      exact ⟨hzero, stored', hstored', hsame.trans hsame'⟩
    · obtain ⟨r, l, -, rfl, hstored⟩ := stored_of_mem_made fresh he
      exact ⟨rfl, _, hstored, .refl _⟩
  · intro j e call' rest he ht
    rcases mem_made_operated.mp he with he | ⟨rfl, hjust⟩
    · rcases thread_cases ht with ⟨rfl, heq⟩ | ⟨-, ht⟩
      · cases heq
        exact (h.owns he turn).extends hextends
      · exact (h.owns he ht).extends hextends
    · rcases thread_cases ht with ⟨-, heq⟩ | ⟨hij, -⟩
      · cases heq
        obtain ⟨r, l, rfl, rfl, -⟩ := stored_of_mem_made fresh hjust
        exact (Call.owns_entryIn hmay).extends hextends
      · exact absurd rfl hij
  · intro credential purpose
    exact taken_operated credential purpose (h.taken_eq credential purpose)

/-! ## A call reads the clock -/

theorem Sound.timed {s : System} (h : s.Sound) {i : Nat} {call : Call}
    {next : Timestamp → Program call.Result} (turn : s.threads[i]? = some ⟨call, .clock next⟩)
    (now : Timestamp) : (s.timed i call (next now)).Sound := by
  refine ⟨h.reachable, ?_, ?_, h.made_stored, ?_, h.taken_eq⟩
  · intro j call' rest ht
    rcases thread_cases ht with ⟨rfl, heq⟩ | ⟨-, ht⟩
    · cases heq
      exact h.keeps turn now
    · exact h.keeps ht
  · intro j e he
    show j < (s.threads.set i _).length
    rw [List.length_set]
    exact h.made_lt he
  · intro j e call' rest he ht
    rcases thread_cases ht with ⟨rfl, heq⟩ | ⟨-, ht⟩
    · cases heq
      exact h.owns he turn
    · exact h.owns he ht

/-! ## Every step -/

theorem Sound.step {s s' : System} (h : s.Sound) (hstep : Step s s') : s'.Sound := by
  cases hstep with
  | start c call => exact h.started c call
  | operate stamp turn fresh => exact h.operated turn fresh
  | time now turn => exact h.timed turn now

theorem Follows.sound {s s' : System} (h : s.Sound) (hfollows : Follows s s') : s'.Sound := by
  induction hfollows with
  | refl => exact h
  | step _ hstep ih => exact ih.step hstep

theorem Run.sound {s : System} (h : s.Run) : s.Sound := Follows.sound initial_sound h

/-! ## Assignments -/

/-- What holds of the assignments of a system, those that have ended and those in progress. -/
structure AssignmentsSeparate (s : System) : Prop where
  /-- Assignments for different credentials or purposes end with different slots. -/
  different_slots : ∀ {i j : Nat} {credential credential' : CredentialId}
    {issuer issuer' : IssuerId} {purpose purpose' : Purpose} {width width' : Option UInt32}
    {e e' : StatusEntry},
    s.Returns i (.assign credential issuer purpose width) (.ok e) →
    s.Returns j (.assign credential' issuer' purpose' width') (.ok e') →
    (credential, purpose) ≠ (credential', purpose') → (e.list, e.index) ≠ (e'.list, e'.index)
  /-- Assignments for one credential and purpose end with one entry. -/
  same_entry : ∀ {i j : Nat} {credential : CredentialId} {issuer issuer' : IssuerId}
    {purpose : Purpose} {width width' : Option UInt32} {e e' : StatusEntry},
    s.Returns i (.assign credential issuer purpose width) (.ok e) →
    s.Returns j (.assign credential issuer' purpose width') (.ok e') →
    e.id = e'.id ∧ e.list = e'.list ∧ e.index = e'.index
  /-- Together they took one slot, and the store has no other entry for the two. -/
  one_slot : ∀ {i : Nat} {credential : CredentialId} {issuer : IssuerId} {purpose : Purpose}
    {width : Option UInt32} {e : StatusEntry},
    s.Returns i (.assign credential issuer purpose width) (.ok e) →
    s.taken credential purpose = 1 ∧ ∃ stored, s.memory.StoresEntry stored ∧ e.Same stored ∧
      ∀ other, s.memory.StoresEntry other → other.credential = credential →
        other.purpose = purpose → other = stored
  /-- An entry that was made for an assignment lies in a list as the assignment asked for, and
  starts with code 0. -/
  in_group : ∀ {i : Nat} {credential : CredentialId} {issuer : IssuerId} {purpose : Purpose}
    {width : Option UInt32} {rest : Program (Except ServiceError StatusEntry)} {e : StatusEntry},
    s.threads[i]? = some ⟨.assign credential issuer purpose width, rest⟩ → (i, e) ∈ s.made →
    e.credential = credential ∧ e.purpose = purpose ∧ e.status = 0 ∧
      ∃ w l, SlotWidth.ofRequest width = .ok w ∧ e.width = w ∧
        s.memory.lists[e.list]? = some l ∧ l.issuer = issuer ∧ l.purpose = purpose ∧ l.width = w
  /-- An assignment for which an entry was made ends with this entry. -/
  made_returned : ∀ {i : Nat} {credential : CredentialId} {issuer : IssuerId} {purpose : Purpose}
    {width : Option UInt32} {e e' : StatusEntry}, (i, e) ∈ s.made →
    s.Returns i (.assign credential issuer purpose width) (.ok e') → e' = e

/-- What an assignment that has ended says of the store. -/
theorem Sound.settled {s : System} (h : s.Sound) {i : Nat} {credential : CredentialId}
    {issuer : IssuerId} {purpose : Purpose} {width : Option UInt32} {e : StatusEntry}
    (hreturns : s.Returns i (.assign credential issuer purpose width) (.ok e)) :
    (s.madeFor i = [] ∨ s.madeFor i = [e]) ∧ ∃ stored, s.memory.StoresEntry stored ∧
      e.Same stored ∧ stored.credential = credential ∧ stored.purpose = purpose := by
  obtain ⟨a, ⟨-, hcredential, -, hpurpose⟩, hrecords, hmade⟩ :=
    h.keeps hreturns (s.view h.reachable.consistent i) (.refl _) e rfl
  obtain ⟨hcredential', hpurpose', stored, hstored, hsame⟩ := hrecords
  exact ⟨hmade, stored, hstored, hsame,
    hsame.credential_eq.trans (hcredential'.trans hcredential),
    hsame.purpose_eq.trans (hpurpose'.trans hpurpose)⟩

/-- **In whatever order calls take turns, assignments for different credentials or purposes never
share a slot, and those for one credential and purpose take one slot together.** -/
theorem assignments_separate {s : System} (hs : s.Run) : s.AssignmentsSeparate := by
  have h := hs.sound
  have hconsistent := h.reachable.consistent
  constructor
  · intro i j credential credential' issuer issuer' purpose purpose' width width' e e' he he' hne
      hslot
    obtain ⟨-, o, ho, hsame, hcredential, hpurpose⟩ := h.settled he
    obtain ⟨-, o', ho', hsame', hcredential', hpurpose'⟩ := h.settled he'
    simp only [Prod.mk.injEq] at hslot
    have heq : o = o' := hconsistent.slot_unique ho ho'
      (by rw [hsame.list_eq, hslot.1, hsame'.list_eq])
      (by rw [hsame.index_eq, hslot.2, hsame'.index_eq])
    apply hne
    rw [← hcredential, ← hpurpose, heq, hcredential', hpurpose']
  · intro i j credential issuer issuer' purpose width width' e e' he he'
    obtain ⟨-, o, ho, hsame, hcredential, hpurpose⟩ := h.settled he
    obtain ⟨-, o', ho', hsame', hcredential', hpurpose'⟩ := h.settled he'
    have heq : o = o' := hconsistent.entry_unique ho ho' (hcredential.trans hcredential'.symm)
      (hpurpose.trans hpurpose'.symm)
    subst heq
    exact ⟨hsame.id_eq.symm.trans hsame'.id_eq, hsame.list_eq.symm.trans hsame'.list_eq,
      hsame.index_eq.symm.trans hsame'.index_eq⟩
  · intro i credential issuer purpose width e he
    obtain ⟨-, o, ho, hsame, hcredential, hpurpose⟩ := h.settled he
    refine ⟨?_, o, ho, hsame, ?_⟩
    · rw [h.taken_eq, hconsistent.byCredential_iff.mpr ⟨o, ho, rfl, hcredential, hpurpose⟩]
      rfl
    · intro other hother hcredential' hpurpose'
      exact hconsistent.entry_unique hother ho (hcredential'.trans hcredential.symm)
        (hpurpose'.trans hpurpose.symm)
  · intro i credential issuer purpose width rest e ht he
    obtain ⟨a, ⟨hw, hcredential, hissuer, hpurpose⟩, hcredential', hpurpose', hwidth, hoffers⟩ :=
      h.owns he ht
    obtain ⟨l, hl, hid, hissuer', hpurpose'', hwidth'⟩ := hoffers
    refine ⟨hcredential'.trans hcredential, hpurpose'.trans hpurpose, (h.made_stored he).1,
      a.width, l, hw, hwidth, ?_, hissuer'.trans hissuer, hpurpose''.trans hpurpose, hwidth'⟩
    rw [← hid]
    exact hl
  · intro i credential issuer purpose width e e' he he'
    have hmem := mem_madeFor.mpr he
    rcases (h.settled he').1 with hnone | hone
    · rw [hnone] at hmem
      cases hmem
    · rw [hone, List.mem_singleton] at hmem
      exact hmem.symm

/-! ## Two assignments for one credential -/

namespace Sample

open Memory.Sample

/-- The assignment of the sample system. -/
def call : Call := .assign credential issuer .revocation none

/-- The system in which the assignment was called twice and has ended twice with the same entry. -/
def system : System :=
  ⟨Memory.Sample.store, [⟨call, .done (.ok entry)⟩, ⟨call, .done (.ok entry)⟩], [(0, entry)]⟩

/-- An operation whose answer is known. -/
theorem step_operate {s : System} {i : Nat} {call : Call} {q : StoreRequest}
    {next : q.Answer → Program call.Result} {answer : q.Answer} {m : Memory} (stamp : Stamp)
    (turn : s.threads[i]? = some ⟨call, .ask q next⟩) (fresh : s.memory.Fresh stamp.fresh q)
    (hanswer : s.memory.answer stamp q = (answer, m)) :
    Step s ⟨m, s.threads.set i ⟨call, next answer⟩,
      s.made ++ (q.made answer).map fun e => (i, e)⟩ := by
  have hstep := Step.operate stamp turn fresh
  unfold operated at hstep
  rw [hanswer] at hstep
  exact hstep

theorem findEntry_empty : Memory.empty.findEntry credential .revocation = none := by
  unfold Memory.findEntry
  rw [Memory.empty_byCredential]

theorem findAvailable_empty : Memory.empty.findAvailable issuer .revocation .one = none := by
  simp [Memory.findAvailable, Memory.empty, Std.HashMap.fold_eq_foldl_toList]

theorem findEntry_store : Memory.Sample.store.findEntry credential .revocation = some entry :=
  reachable.consistent.findEntry_eq_some_iff.mpr ⟨storesEntry, rfl, rfl⟩

theorem createEntry_withList : withList.createEntry request (stamp 2) = (.ok entry, store) := by
  have hplan : withList.planEntry request (stamp 2) =
      .ok (entry, list.withSlotTaken (stamp 2).now) :=
    Memory.planEntry_eq_ok_iff.mpr ⟨list, allots, rfl, rfl⟩
  unfold Memory.createEntry
  rw [hplan, store_eq]
  rfl

/-- The first call makes a list and takes its first slot; the second one finds the entry. -/
theorem run : system.Run := by
  have h₀ : Follows initial ⟨.empty, [⟨call, call.program .default⟩, ⟨call, call.program .default⟩],
      []⟩ := .step (.step .refl (.start .default call)) (.start .default call)
  have h₁ := Follows.step h₀ (step_operate (i := 0) (stamp 1) rfl trivial
    (Prod.ext (congrArg Except.ok findEntry_empty) rfl))
  have h₂ := Follows.step h₁ (step_operate (i := 0) (stamp 1) rfl trivial
    (Prod.ext (congrArg Except.ok findAvailable_empty) rfl))
  have h₃ := Follows.step h₂ (step_operate (i := 0) (stamp 1) rfl (Memory.empty_lists _)
    (show _ = (Except.ok list, withList) from rfl))
  have h₄ := Follows.step h₃ (step_operate (i := 0) (stamp 1) rfl trivial
    (Prod.ext (congrArg Except.ok withList_lists) rfl))
  have h₅ := Follows.step h₄ (step_operate (i := 0) (stamp 2) rfl (Memory.empty_entries _)
    createEntry_withList)
  have h₆ := Follows.step h₅ (step_operate (i := 1) (stamp 3) rfl trivial
    (Prod.ext (congrArg Except.ok findEntry_store) rfl))
  exact h₆

end Sample

/-- In the sample system two assignments for one credential took one slot together. -/
theorem sample_assignments_separate :
    Sample.system.Returns 0 Sample.call (.ok Memory.Sample.entry) ∧
      Sample.system.Returns 1 Sample.call (.ok Memory.Sample.entry) ∧
      Sample.system.taken Memory.Sample.credential .revocation = 1 :=
  ⟨rfl, rfl, ((assignments_separate Sample.run).one_slot (i := 0) rfl).1⟩

end System

end StatusRegistry

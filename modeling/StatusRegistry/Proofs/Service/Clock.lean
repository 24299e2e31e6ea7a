import StatusRegistry.Proofs.Service.Interleaving
import StatusRegistry.Proofs.Store.StatusChange

/-!
# Times of change

The times at which lists and entries were last changed, while calls take turns and the clock never
goes back.  An operation that hands out a slot or changes a status takes its time from the clock
when it is carried out.  Only a change of settings is different: its call reads the list, then the
clock, and stores the time that it read in a later turn.

* `Program.Stamps`: a program stores settings only with the time that it read from the clock last;
* `Clocked.Step`: the steps of a system, each at a time of the clock;
* `Clocked.updatedAt_moves_back_iff`: no step moves the time of an entry back, and one moves that of
  a list back iff it stores settings with a time that has been overtaken since it was read;
* `Clocked.revocation_overtaken`: a status is changed in between, and this is what happens.
-/

set_option autoImplicit false

namespace StatusRegistry

namespace Timestamp

theorem le_refl (a : Timestamp) : a ≤ a := Int.le_refl a.instant.rank

theorem le_trans {a b c : Timestamp} (h : a ≤ b) (h' : b ≤ c) : a ≤ c :=
  Int.le_trans (show a.instant.rank ≤ b.instant.rank from h) h'

theorem not_lt {a b : Timestamp} : ¬ a < b ↔ b ≤ a := Instant.not_lt

end Timestamp

/-! ## Operations -/

namespace Memory

/-- No time of change is later than a time of the clock. -/
structure ChangedBy (m : Memory) (now : Timestamp) : Prop where
  list : ∀ {l}, m.StoresList l → l.updatedAt ≤ now
  entry : ∀ {e}, m.StoresEntry e → e.updatedAt ≤ now

theorem ChangedBy.later {m : Memory} {now now' : Timestamp} (h : m.ChangedBy now)
    (hle : now ≤ now') : m.ChangedBy now' :=
  ⟨fun hl => Timestamp.le_trans (h.list hl) hle, fun he => Timestamp.le_trans (h.entry he) hle⟩

/-- A list is as it was before an operation, or it has the time of the operation, or it has the
time that came with its settings. -/
theorem storesList_answer {m : Memory} (h : m.Consistent) {stamp : Stamp} {q : StoreRequest}
    {l : StatusList} (hl : (m.answer stamp q).2.StoresList l) :
    m.StoresList l ∨ l.updatedAt = stamp.now ∨
      ∃ x, q = .updateList x ∧ l.id = x.id ∧ l.updatedAt = x.updatedAt := by
  have hchange := answer_change m stamp q
  generalize (m.answer stamp q).2 = m' at hchange hl
  cases hchange with
  | none => exact .inl hl
  | list made =>
    obtain ⟨p, -, rfl⟩ := StatusList.create_eq_ok made
    rcases storesList_putList.mp hl with rfl | ⟨-, hl⟩
    · exact .inr (.inl rfl)
    · exact .inl hl
  | settings found =>
    rename_i x stored
    have hid := h.list_id found
    rw [settings_eq_putList h found] at hl
    rcases storesList_putList.mp hl with rfl | ⟨-, hl⟩
    · exact .inr (.inr ⟨x, rfl, hid, rfl⟩)
    · exact .inl hl
  | entry allots =>
    rcases storesList_putList.mp hl with rfl | ⟨-, hl⟩
    · exact .inr (.inl rfl)
    · exact .inl hl
  | status found list set =>
    have hstored := StatusList.stored_of_setStatus (h.sound (h.storesList list)) set
    rcases storesList_putList.mp hl with rfl | ⟨-, hl⟩
    · refine .inr (.inl ?_)
      rw [hstored.list_eq]
      rfl
    · exact .inl hl

/-- An entry is as it was before an operation, or it has the time of the operation. -/
theorem storesEntry_answer {m : Memory} (h : m.Consistent) {stamp : Stamp} {q : StoreRequest}
    {e : StatusEntry} (he : (m.answer stamp q).2.StoresEntry e) :
    m.StoresEntry e ∨ e.updatedAt = stamp.now := by
  have hchange := answer_change m stamp q
  generalize (m.answer stamp q).2 = m' at hchange he
  cases hchange with
  | none => exact .inl he
  | list made => exact .inl he
  | settings found => exact .inl he
  | entry allots =>
    rcases storesEntry_putEntry.mp he with rfl | ⟨-, he⟩
    · exact .inr rfl
    · exact .inl he
  | status found list set =>
    have hstored := StatusList.stored_of_setStatus (h.sound (h.storesList list)) set
    rcases storesEntry_putEntry.mp he with rfl | ⟨-, he⟩
    · refine .inr ?_
      show StatusList.updatedAt _ = _
      rw [hstored.list_eq]
      rfl
    · exact .inl he

/-- What an operation of a time that is not past does to the times of change: it moves none back,
unless it stores settings with a time that is past. -/
theorem answer_times {m : Memory} (h : m.Consistent) {stamp : Stamp} {q : StoreRequest}
    (hfresh : m.Fresh stamp.fresh q) (hpast : m.ChangedBy stamp.now) :
    (∀ {e}, m.StoresEntry e → ∃ e', (m.answer stamp q).2.StoresEntry e' ∧ e'.id = e.id ∧
      e.updatedAt ≤ e'.updatedAt) ∧
    ∀ {l}, m.StoresList l → ∃ l', (m.answer stamp q).2.StoresList l' ∧ l'.id = l.id ∧
      (l.updatedAt ≤ l'.updatedAt ∨
        ∃ x, q = .updateList x ∧ x.id = l.id ∧ l'.updatedAt = x.updatedAt) := by
  have hextends := answer_extends h hfresh
  constructor
  · intro e he
    obtain ⟨e', he', hsame⟩ := hextends.entry he
    refine ⟨e', he', hsame.id_eq, ?_⟩
    rcases storesEntry_answer h he' with hold | hnow
    · rw [hold.unique he hsame.id_eq]
      exact Timestamp.le_refl _
    · rw [hnow]
      exact hpast.entry he
  · intro l hl
    obtain ⟨l', hl', hsame, -⟩ := hextends.list hl
    refine ⟨l', hl', hsame.id_eq, ?_⟩
    rcases storesList_answer h hl' with hold | hnow | ⟨x, hq, hid, hx⟩
    · rw [hold.unique hl hsame.id_eq]
      exact .inl (Timestamp.le_refl _)
    · rw [hnow]
      exact .inl (hpast.list hl)
    · exact .inr ⟨x, hq, hid.symm.trans hsame.id_eq, hx⟩

/-- The operation that stores settings gives a stored list the time that came with them. -/
theorem answer_updateList {m : Memory} (h : m.Consistent) {x l : StatusList}
    (hl : m.StoresList l) (hid : x.id = l.id) (stamp : Stamp) :
    (m.answer stamp (.updateList x)).2.StoresList (withSettings l x) := by
  have hfound : m.lists[x.id]? = some l := by
    rw [hid]
    exact hl
  show (m.updateList x).2.StoresList (withSettings l x)
  unfold updateList
  simp only [hfound]
  have hput := settings_eq_putList h hfound
  unfold withSettings at hput
  rw [hput]
  exact storesList_putList.mpr (.inl rfl)

end Memory

/-! ## Programs -/

namespace Program

variable {α β : Type} {may may' : Prop} {good good' : Option Timestamp → α → Prop}
  {own : Option Timestamp}

/-- A program stores settings only if it may, and then with the time that it read from the clock
last.  `own` is the time that it has read so far. -/
def Stamps (may : Prop) (good : Option Timestamp → α → Prop) : Option Timestamp → Program α → Prop
  | own, .done a => good own a
  | own, .ask q next =>
    (∀ l, q = .updateList l → may ∧ own = some l.updatedAt) ∧
      ∀ answer, Stamps may good own (next answer)
  | _, .clock next => ∀ now, Stamps may good (some now) (next now)

theorem Stamps.weaken {p : Program α} (hmay : may → may')
    (hgood : ∀ own a, good own a → good' own a)
    (hp : p.Stamps may good own) : p.Stamps may' good' own := by
  induction p generalizing own with
  | done a => exact hgood own a hp
  | ask q next ih =>
    refine ⟨?_, fun answer => ih answer (hp.2 answer)⟩
    intro l hl
    exact (hp.1 l hl).imp hmay id
  | clock next ih => exact fun now => ih now (hp now)

/-- One program after another. -/
theorem Stamps.bind {mid : Option Timestamp → β → Prop} {p : Program β} {f : β → Program α}
    (hp : p.Stamps may mid own) (hf : ∀ own b, mid own b → (f b).Stamps may good own) :
    (p.bind f).Stamps may good own := by
  induction p generalizing own with
  | done b => exact hf own b hp
  | ask q next ih => exact ⟨hp.1, fun answer => ih answer (hp.2 answer)⟩
  | clock next ih => exact fun now => ih now (hp now)

end Program

namespace Service

variable {α β : Type} {may : Prop} {good : Option Timestamp → α → Prop} {own : Option Timestamp}

/-- How a service stores settings, where only a value is a result that has to be good. -/
def Stamps (may : Prop) (good : Option Timestamp → α → Prop) (own : Option Timestamp)
    (s : Service α) : Prop :=
  Program.Stamps may (fun own result => ∀ a, result = .ok a → good own a) own s.run

/-- A service stores no settings. -/
def LeavesSettings (s : Service α) : Prop := ∀ own, s.Stamps False (fun _ _ => True) own

theorem Stamps.bind (mid : Option Timestamp → β → Prop) {s : Service β} {f : β → Service α}
    (hs : s.Stamps may mid own) (hf : ∀ own b, mid own b → (f b).Stamps may good own) :
    (s >>= f).Stamps may good own := by
  refine Program.Stamps.bind hs ?_
  intro own result hresult
  cases result with
  | ok b => exact hf own b (hresult b rfl)
  | error err =>
    intro a ha
    cases ha

theorem stamps_check {result : Except ValidationError α}
    (h : ∀ a, result = .ok a → good own a) : (check result).Stamps may good own := by
  intro a ha
  cases result with
  | ok b =>
    cases ha
    exact h _ rfl
  | error err => cases ha

namespace LeavesSettings

theorem bind {s : Service β} {f : β → Service α} (hs : s.LeavesSettings)
    (hf : ∀ b, (f b).LeavesSettings) : (s >>= f).LeavesSettings :=
  fun own => (hs own).bind _ fun own b _ => hf b own

theorem pure (a : α) : LeavesSettings (Pure.pure a : Service α) := fun _ _ _ => trivial

theorem throw (err : ServiceError) :
    LeavesSettings (MonadExcept.throw err : Service α) := fun _ _ _ => trivial

theorem check (result : Except ValidationError α) : (check result).LeavesSettings :=
  fun _ => stamps_check fun _ _ => trivial

/-- One request, which is not one to store settings. -/
theorem ofStore {q : StoreRequest} (hq : ∀ l, q ≠ .updateList l)
    (read : q.Answer → Except StoreError α) :
    LeavesSettings (Service.ofStore (.ask q fun answer => .done (read answer))) :=
  fun _ => ⟨fun l hl => absurd hl (hq l), fun _ _ _ => trivial⟩

theorem lift {q : StoreRequest} (hq : ∀ l, q ≠ .updateList l) :
    LeavesSettings (ExceptT.lift (Program.request q)) :=
  fun _ => ⟨fun l hl => absurd hl (hq l), fun _ _ _ => trivial⟩

theorem createList (c : Config) (r : ListRequest) : (createList c r).LeavesSettings :=
  (check _).bind fun _ => ofStore (by rintro l ⟨⟩) _

theorem findOrCreate (c : Config) (issuer : IssuerId) (purpose : Purpose) (width : SlotWidth) :
    (findOrCreate c issuer purpose width).LeavesSettings := by
  refine (ofStore (by rintro l ⟨⟩) _).bind fun found => ?_
  cases found with
  | some l => exact pure l
  | none => exact createList c _

theorem getList (list : ListId) : (getList list).LeavesSettings := by
  refine (ofStore (by rintro l ⟨⟩) _).bind fun found => ?_
  cases found with
  | some l => exact pure l
  | none => exact throw _

theorem nextIndex (list : ListId) : (nextIndex list).LeavesSettings :=
  (getList list).bind fun _ => pure _

theorem createEntry (r : EntryRequest) : (createEntry r).LeavesSettings :=
  ofStore (by rintro l ⟨⟩) _

theorem findEntry (credential : CredentialId) (purpose : Purpose) :
    (findEntry credential purpose).LeavesSettings :=
  ofStore (by rintro l ⟨⟩) _

theorem findList (list : ListId) : (findList list).LeavesSettings := ofStore (by rintro l ⟨⟩) _

theorem listCredential (c : Config) (list : ListId) (issuer : Issuer) :
    (listCredential c list issuer).LeavesSettings := by
  refine (findList list).bind fun found => ?_
  cases found with
  | some l => exact pure _
  | none => exact pure _

theorem chooseSlot (c : Config) (a : Assignment) : (chooseSlot c a).LeavesSettings := by
  refine (findOrCreate c _ _ _).bind fun l => (nextIndex l.id).bind fun found => ?_
  cases found with
  | some index => exact pure _
  | none =>
    refine (createList c _).bind fun l => (nextIndex l.id).bind fun found => ?_
    cases found with
    | some index => exact pure _
    | none => exact pure _

theorem attempt (c : Config) (a : Assignment) : (attempt c a).LeavesSettings := by
  refine (chooseSlot c a).bind fun choice => ?_
  cases choice with
  | none => exact pure _
  | some choice =>
    refine (lift (by rintro l ⟨⟩)).bind fun answer => ?_
    cases answer with
    | ok e => exact pure _
    | error err =>
      cases err with
      | duplicate credential purpose => exact findEntry _ _
      | _ =>
        dsimp only
        split
        · exact pure _
        · exact throw _

theorem attempts (c : Config) (a : Assignment) (n : Nat) : (attempts c a n).LeavesSettings := by
  induction n with
  | zero => exact throw _
  | succ n ih =>
    refine (attempt c a).bind fun made => ?_
    cases made with
    | some e => exact pure e
    | none => exact ih

theorem assign (c : Config) (credential : CredentialId) (issuer : IssuerId) (purpose : Purpose)
    (width : Option UInt32) : (assign c credential issuer purpose width).LeavesSettings := by
  refine (check _).bind fun width => (findEntry credential purpose).bind fun found => ?_
  cases found with
  | some e => exact pure e
  | none => exact attempts c _ _

end LeavesSettings

/-- A change of settings stores them with the time that it has read. -/
theorem stamps_updateSettings (list : ListId) (ttl : Option Int64)
    (metadata : Option Json.Members) :
    (updateSettings list ttl metadata).Stamps True (fun _ _ => True) none := by
  have hget : (getList list).Stamps True (fun _ _ => True) none :=
    Program.Stamps.weaken False.elim (fun _ _ h => h) (LeavesSettings.getList list none)
  refine hget.bind _ fun own l _ => ?_
  refine Stamps.bind (fun own now => own = some now) ?_ fun own now hown => ?_
  · intro now now' heq
    cases heq
    rfl
  · refine Stamps.bind (fun own _ => own = some now) ?_ fun own l hown => ?_
    · exact stamps_check fun _ _ => hown
    · refine ⟨?_, fun _ _ _ => trivial⟩
      rintro x ⟨⟩
      exact ⟨trivial, hown⟩

end Service

/-! ## Steps at a time of the clock -/

namespace Call

/-- A call is one to change settings. -/
def ChangesSettings : Call → Prop
  | updateSettings _ _ _ => True
  | _ => False

/-- A call stores settings only if it is one to change them, with the time that it read last. -/
theorem program_stamps (c : Config) (call : Call) :
    (call.program c).Stamps call.ChangesSettings (fun _ _ => True) none := by
  have hleaves : ∀ {α : Type} {s : Service α}, s.LeavesSettings →
      Program.Stamps False (fun _ _ => True) none s.run :=
    fun h => Program.Stamps.weaken id (fun _ _ _ => trivial) (h none)
  cases call with
  | assign credential issuer purpose width => exact hleaves (.assign c _ _ _ _)
  | updateStatus u => exact ⟨by rintro l ⟨⟩, fun _ => trivial⟩
  | updateSettings list ttl metadata =>
    exact Program.Stamps.weaken id (fun _ _ _ => trivial)
      (Service.stamps_updateSettings list ttl metadata)
  | createList r => exact hleaves (.createList c r)
  | findOrCreate issuer purpose width => exact hleaves (.findOrCreate c _ _ _)
  | nextIndex list => exact hleaves (.nextIndex list)
  | createEntry r => exact hleaves (.createEntry r)
  | findEntry credential purpose => exact hleaves (.findEntry _ _)
  | findList list => exact hleaves (.findList list)
  | listCredential list issuer => exact hleaves (.listCredential c _ _)

end Call

/-- Calls in progress over one store, and the time of the clock. -/
structure Clocked where
  system : System
  clock : Timestamp

namespace Clocked

/-- One step.  The clock never goes back: an operation and a reading take a time from it that is
not before the last one. -/
inductive Step (s : Clocked) : Clocked → Prop
  | start (c : Config) (call : Call) : Step s ⟨s.system.started c call, s.clock⟩
  | operate {i : Nat} {call : Call} {q : StoreRequest} {next : q.Answer → Program call.Result}
      (stamp : Stamp) (later : s.clock ≤ stamp.now)
      (turn : s.system.threads[i]? = some ⟨call, .ask q next⟩)
      (fresh : s.system.memory.Fresh stamp.fresh q) :
      Step s ⟨s.system.operated i call stamp q next, stamp.now⟩
  | time {i : Nat} {call : Call} {next : Timestamp → Program call.Result} (now : Timestamp)
      (later : s.clock ≤ now) (turn : s.system.threads[i]? = some ⟨call, .clock next⟩) :
      Step s ⟨s.system.timed i call (next now), now⟩

/-- The systems that any steps lead to from an empty store, at any time. -/
inductive Run : Clocked → Prop
  | start (clock : Timestamp) : Run ⟨.initial, clock⟩
  | step {s s' : Clocked} (run : Run s) (step : Step s s') : Run s'

theorem Step.system {s s' : Clocked} (h : s.Step s') : s.system.Step s'.system := by
  cases h with
  | start c call => exact .start c call
  | operate stamp later turn fresh => exact .operate stamp turn fresh
  | time now later turn => exact .time now turn

theorem Run.system {s : Clocked} (h : s.Run) : s.system.Run := by
  induction h with
  | start clock => exact .refl
  | step _ hstep ih => exact .step ih hstep.system

theorem Run.consistent {s : Clocked} (h : s.Run) : s.system.memory.Consistent :=
  h.system.sound.reachable.consistent

/-! ## What every order of steps keeps -/

/-- What every order of steps keeps: no time of change and no time that a call has read is later
than the clock. -/
structure Timely (s : Clocked) : Prop where
  memory : s.system.memory.ChangedBy s.clock
  thread : ∀ {i : Nat} {call : Call} {rest : Program call.Result},
    s.system.threads[i]? = some ⟨call, rest⟩ → ∃ own, (∀ t, own = some t → t ≤ s.clock) ∧
      rest.Stamps call.ChangesSettings (fun _ _ => True) own

theorem initial_timely (clock : Timestamp) : Timely ⟨.initial, clock⟩ := by
  refine ⟨⟨?_, ?_⟩, ?_⟩
  · intro l hl
    exact absurd hl (by simp [System.initial, Memory.StoresList])
  · intro e he
    exact absurd he (by simp [System.initial, Memory.StoresEntry])
  · intro i call rest ht
    simp [System.initial] at ht

/-- The settings that a call is about to store have a time that is not later than the clock. -/
theorem Timely.settings {s : Clocked} (h : s.Timely) {i : Nat} {call : Call} {x : StatusList}
    {next : (StoreRequest.updateList x).Answer → Program call.Result}
    (turn : s.system.threads[i]? = some ⟨call, .ask (.updateList x) next⟩) :
    call.ChangesSettings ∧ x.updatedAt ≤ s.clock := by
  obtain ⟨own, hown, hstamps⟩ := h.thread turn
  obtain ⟨hmay, hlast⟩ := hstamps.1 x rfl
  exact ⟨hmay, hown _ hlast⟩

theorem Timely.started {s : Clocked} (h : s.Timely) (c : Config) (call : Call) :
    Timely ⟨s.system.started c call, s.clock⟩ := by
  refine ⟨h.memory, ?_⟩
  intro i call' rest ht
  rcases System.thread_started ht with ht | ⟨-, heq⟩
  · exact h.thread ht
  · cases heq
    exact ⟨none, by rintro t ⟨⟩, call.program_stamps c⟩

/-- An operation leaves no time of change that is later than its own time. -/
theorem Timely.changedBy_answer {s : Clocked} (h : s.Timely) (hm : s.system.memory.Consistent)
    {i : Nat} {call : Call} {q : StoreRequest} {next : q.Answer → Program call.Result}
    {stamp : Stamp} (later : s.clock ≤ stamp.now)
    (turn : s.system.threads[i]? = some ⟨call, .ask q next⟩) :
    (s.system.memory.answer stamp q).2.ChangedBy stamp.now := by
  have hpast := h.memory.later later
  constructor
  · intro l hl
    rcases Memory.storesList_answer hm hl with hold | hnow | ⟨x, rfl, -, hx⟩
    · exact hpast.list hold
    · rw [hnow]
      exact Timestamp.le_refl _
    · rw [hx]
      exact Timestamp.le_trans (h.settings turn).2 later
  · intro e he
    rcases Memory.storesEntry_answer hm he with hold | hnow
    · exact hpast.entry hold
    · rw [hnow]
      exact Timestamp.le_refl _

theorem Timely.operated {s : Clocked} (h : s.Timely) (hm : s.system.memory.Consistent) {i : Nat}
    {call : Call} {q : StoreRequest} {next : q.Answer → Program call.Result} {stamp : Stamp}
    (later : s.clock ≤ stamp.now) (turn : s.system.threads[i]? = some ⟨call, .ask q next⟩) :
    Timely ⟨s.system.operated i call stamp q next, stamp.now⟩ := by
  refine ⟨h.changedBy_answer hm later turn, ?_⟩
  intro j call' rest ht
  rcases System.thread_cases ht with ⟨-, heq⟩ | ⟨-, ht⟩
  · cases heq
    obtain ⟨own, hown, hstamps⟩ := h.thread turn
    exact ⟨own, fun t heq => Timestamp.le_trans (hown t heq) later, hstamps.2 _⟩
  · obtain ⟨own, hown, hstamps⟩ := h.thread ht
    exact ⟨own, fun t heq => Timestamp.le_trans (hown t heq) later, hstamps⟩

theorem Timely.timed {s : Clocked} (h : s.Timely) {i : Nat} {call : Call}
    {next : Timestamp → Program call.Result} {now : Timestamp} (later : s.clock ≤ now)
    (turn : s.system.threads[i]? = some ⟨call, .clock next⟩) :
    Timely ⟨s.system.timed i call (next now), now⟩ := by
  refine ⟨h.memory.later later, ?_⟩
  intro j call' rest ht
  rcases System.thread_cases ht with ⟨-, heq⟩ | ⟨-, ht⟩
  · cases heq
    obtain ⟨own, -, hstamps⟩ := h.thread turn
    refine ⟨some now, ?_, hstamps now⟩
    rintro t ⟨⟩
    exact Timestamp.le_refl now
  · obtain ⟨own, hown, hstamps⟩ := h.thread ht
    exact ⟨own, fun t heq => Timestamp.le_trans (hown t heq) later, hstamps⟩

theorem Timely.step {s s' : Clocked} (h : s.Timely) (hm : s.system.memory.Consistent)
    (hstep : s.Step s') : s'.Timely := by
  cases hstep with
  | start c call => exact h.started c call
  | operate stamp later turn fresh => exact h.operated hm later turn
  | time now later turn => exact h.timed later turn

theorem Run.timely {s : Clocked} (h : s.Run) : s.Timely := by
  induction h with
  | start clock => exact initial_timely clock
  | step run hstep ih => exact ih.step run.consistent hstep

/-! ## What one step does to the times of change -/

/-- A step stores the settings of a call to change them, and the list has been changed since the
call read its time from the clock. -/
def StoresOvertaken (s s' : Clocked) (l : StatusList) : Prop :=
  ∃ (i : Nat) (list : ListId) (ttl : Option Int64) (metadata : Option Json.Members)
    (x : StatusList)
    (next : Except StoreError StatusList → Program (Except ServiceError StatusList))
    (stamp : Stamp),
    s.system.threads[i]? = some ⟨.updateSettings list ttl metadata, .ask (.updateList x) next⟩ ∧
    s' = ⟨s.system.operated i (.updateSettings list ttl metadata) stamp (.updateList x) next,
      stamp.now⟩ ∧
    x.id = l.id ∧ x.updatedAt < l.updatedAt

/-- What a step does to the times of change. -/
structure TimesMoved (s s' : Clocked) : Prop where
  /-- None is later than the clock after it. -/
  past : s'.system.memory.ChangedBy s'.clock
  /-- That of an entry does not move back. -/
  entry : ∀ {e}, s.system.memory.StoresEntry e →
    ∃ e', s'.system.memory.StoresEntry e' ∧ e'.id = e.id ∧ e.updatedAt ≤ e'.updatedAt
  /-- That of a list moves back iff settings are stored that have been overtaken. -/
  list_iff : ∀ {l}, s.system.memory.StoresList l →
    ∃ l', s'.system.memory.StoresList l' ∧ l'.id = l.id ∧
      (l'.updatedAt < l.updatedAt ↔ s.StoresOvertaken s' l)
  /-- The time that comes with settings is that of the clock when it is read, so it is no earlier
  than any time of change then. -/
  read : ∀ {i : Nat} {call : Call} {k : Timestamp → Program call.Result} {x : StatusList}
    {next : Except StoreError StatusList → Program call.Result},
    s.system.threads[i]? = some ⟨call, .clock k⟩ →
    s'.system.threads[i]? = some ⟨call, .ask (.updateList x) next⟩ → x.updatedAt = s'.clock

/-- Settings that have been overtaken move the time of their list back. -/
theorem StoresOvertaken.moves_back {s s' : Clocked} {l : StatusList} (h : s.StoresOvertaken s' l)
    (hm : s.system.memory.Consistent) (hl : s.system.memory.StoresList l) :
    ∃ l', s'.system.memory.StoresList l' ∧ l'.id = l.id ∧ l'.updatedAt < l.updatedAt := by
  obtain ⟨i, list, ttl, metadata, x, next, stamp, -, rfl, hid, hlt⟩ := h
  exact ⟨_, Memory.answer_updateList hm hl hid stamp, rfl, hlt⟩

/-- An entry is there after a step, with a time that is not earlier. -/
theorem Run.entry_step {s s' : Clocked} (hs : s.Run) (hstep : s.Step s') {e : StatusEntry}
    (he : s.system.memory.StoresEntry e) :
    ∃ e', s'.system.memory.StoresEntry e' ∧ e'.id = e.id ∧ e.updatedAt ≤ e'.updatedAt := by
  cases hstep with
  | start c call => exact ⟨e, he, rfl, Timestamp.le_refl _⟩
  | operate stamp later turn fresh =>
    exact (Memory.answer_times hs.consistent fresh (hs.timely.memory.later later)).1 he
  | time now later turn => exact ⟨e, he, rfl, Timestamp.le_refl _⟩

/-- A list is there after a step, with a time that is not earlier unless settings are stored that
have been overtaken. -/
theorem Run.list_step {s s' : Clocked} (hs : s.Run) (hstep : s.Step s') {l : StatusList}
    (hl : s.system.memory.StoresList l) :
    ∃ l', s'.system.memory.StoresList l' ∧ l'.id = l.id ∧
      (l.updatedAt ≤ l'.updatedAt ∨ s.StoresOvertaken s' l) := by
  cases hstep with
  | start c call => exact ⟨l, hl, rfl, .inl (Timestamp.le_refl _)⟩
  | @operate i call q next stamp later turn fresh =>
    obtain ⟨l', hl', hid, hmoved⟩ :=
      (Memory.answer_times hs.consistent fresh (hs.timely.memory.later later)).2 hl
    refine ⟨l', hl', hid, ?_⟩
    rcases hmoved with hle | ⟨x, rfl, hx, heq⟩
    · exact .inl hle
    · by_cases hlt : x.updatedAt < l.updatedAt
      · right
        have hsettings := (hs.timely.settings turn).1
        cases call with
        | updateSettings list ttl metadata =>
          exact ⟨i, list, ttl, metadata, x, next, stamp, turn, rfl, hx, hlt⟩
        | _ => exact hsettings.elim
      · left
        rw [heq]
        exact Timestamp.not_lt.mp hlt
  | time now later turn => exact ⟨l, hl, rfl, .inl (Timestamp.le_refl _)⟩

/-- A call that reads the clock reads the time to which the step brings it. -/
theorem Run.reads_clock {s s' : Clocked} (hs : s.Run) (hstep : s.Step s') {i : Nat} {call : Call}
    {k : Timestamp → Program call.Result} {x : StatusList}
    {next : Except StoreError StatusList → Program call.Result}
    (hbefore : s.system.threads[i]? = some ⟨call, .clock k⟩)
    (hafter : s'.system.threads[i]? = some ⟨call, .ask (.updateList x) next⟩) :
    x.updatedAt = s'.clock := by
  -- only a step of this call itself takes it from its reading to its request
  cases hstep with
  | start c new =>
    rcases System.thread_started hafter with hsame | ⟨hi, -⟩
    · rw [hbefore] at hsame
      cases hsame
    · rw [hi] at hbefore
      simp at hbefore
  | operate stamp later turn fresh =>
    rcases System.thread_cases hafter with ⟨rfl, -⟩ | ⟨-, hsame⟩
    · rw [hbefore] at turn
      cases turn
    · rw [hbefore] at hsame
      cases hsame
  | time now later turn =>
    rcases System.thread_cases hafter with ⟨rfl, heq⟩ | ⟨-, hsame⟩
    · obtain ⟨own, -, hstamps⟩ := hs.timely.thread hbefore
      have hrest := hstamps now
      rw [hbefore] at turn
      cases turn
      simp only [Thread.mk.injEq, heq_eq_eq, true_and] at heq
      rw [← heq] at hrest
      exact (Option.some.inj (hrest.1 x rfl).2).symm
    · rw [hbefore] at hsame
      cases hsame

/-- **While calls take turns and the clock does not go back, the time of change of an entry never
moves back, and that of a list does exactly if a call to change settings stores the time that it
read before the list was changed last.** -/
theorem updatedAt_moves_back_iff {s s' : Clocked} (hs : s.Run) (hstep : s.Step s') :
    s.TimesMoved s' := by
  refine ⟨(hs.step hstep).timely.memory, hs.entry_step hstep, ?_, hs.reads_clock hstep⟩
  intro l hl
  obtain ⟨l', hl', hid, hmoved⟩ := hs.list_step hstep hl
  refine ⟨l', hl', hid, ?_, ?_⟩
  · intro hlt
    rcases hmoved with hle | hovertaken
    · exact absurd hlt (Timestamp.not_lt.mpr hle)
    · exact hovertaken
  · intro hovertaken
    obtain ⟨l'', hl'', hid', hlt⟩ := hovertaken.moves_back hs.consistent hl
    rw [hl'.unique hl'' (hid.trans hid'.symm)]
    exact hlt

/-! ## A status that is changed while settings are -/

namespace Sample

open Memory.Sample

/-- One second later than everything in the sample store. -/
def later : Timestamp := ⟨⟨1, 0, by decide, by decide, by decide⟩⟩

theorem epoch_lt_later : (⟨.epoch⟩ : Timestamp) < later := by decide

/-- The change of the settings of the list of the sample store. -/
def settings : Call := .updateSettings ⟨⟨1⟩⟩ none none

/-- The revocation of the credential of the sample store. -/
def revocation : StatusUpdate := ⟨credential, 1, .revocation, none⟩

/-- The list of the sample store with the settings that are to be stored. -/
def changed : StatusList := (list.withSlotTaken ⟨.epoch⟩).setMetadata none ⟨.epoch⟩

/-- An operation whose answer is known. -/
theorem step_operate {s : System} {clock : Timestamp} {i : Nat} {call : Call} {q : StoreRequest}
    {next : q.Answer → Program call.Result} {answer : q.Answer} {m : Memory} (stamp : Stamp)
    (later : clock ≤ stamp.now) (turn : s.threads[i]? = some ⟨call, .ask q next⟩)
    (fresh : s.memory.Fresh stamp.fresh q) (hanswer : s.memory.answer stamp q = (answer, m)) :
    Step ⟨s, clock⟩ ⟨⟨m, s.threads.set i ⟨call, next answer⟩,
      s.made ++ (q.made answer).map fun e => (i, e)⟩, stamp.now⟩ := by
  have hstep := Step.operate (s := ⟨s, clock⟩) stamp later turn fresh
  unfold System.operated at hstep
  rw [hanswer] at hstep
  exact hstep

/-- The sample store is made by an assignment, and a call to change the settings of its list reads
the list and the clock. -/
theorem run_read : ∃ next made, Run ⟨⟨store, [⟨System.Sample.call, .done (.ok entry)⟩,
    ⟨settings, .ask (.updateList changed) next⟩], made⟩, ⟨.epoch⟩⟩ := by
  have h₀ : Run ⟨⟨.empty, [⟨System.Sample.call, System.Sample.call.program .default⟩,
      ⟨settings, settings.program .default⟩], []⟩, ⟨.epoch⟩⟩ :=
    .step (.step (.start _) (.start .default _)) (.start .default _)
  have h₁ := Run.step h₀ (step_operate (i := 0) (stamp 1) (by decide) rfl trivial
    (Prod.ext (congrArg Except.ok System.Sample.findEntry_empty) rfl))
  have h₂ := Run.step h₁ (step_operate (i := 0) (stamp 1) (by decide) rfl trivial
    (Prod.ext (congrArg Except.ok System.Sample.findAvailable_empty) rfl))
  have h₃ := Run.step h₂ (step_operate (i := 0) (stamp 1) (by decide) rfl (Memory.empty_lists _)
    (show _ = (Except.ok list, withList) from rfl))
  have h₄ := Run.step h₃ (step_operate (i := 0) (stamp 1) (by decide) rfl trivial
    (Prod.ext (congrArg Except.ok withList_lists) rfl))
  have h₅ := Run.step h₄ (step_operate (i := 0) (stamp 2) (by decide) rfl (Memory.empty_entries _)
    System.Sample.createEntry_withList)
  have h₆ := Run.step h₅ (step_operate (i := 1) (stamp 3) (by decide) rfl trivial
    (Prod.ext (congrArg Except.ok Memory.Sample.assigned.list) rfl))
  have h₇ := Run.step h₆ (Step.time (i := 1) ⟨.epoch⟩ (Timestamp.le_refl _) rfl)
  exact ⟨_, _, h₇⟩

/-- A second later the credential is revoked, before the settings are stored. -/
theorem run_revoked : ∃ (s : Clocked)
    (next : Except StoreError StatusList → Program (Except ServiceError StatusList))
    (l : StatusList), s.Run ∧ s.clock = later ∧
      s.system.threads[1]? = some ⟨settings, .ask (.updateList changed) next⟩ ∧
      s.system.memory.StoresList l ∧ l.id = changed.id ∧ l.updatedAt = later := by
  obtain ⟨next, made, hread⟩ := run_read
  obtain ⟨e', l', m', heq, hwritten⟩ := Memory.updateStatus_written reachable.consistent
    (u := revocation) Memory.Sample.assigned (by decide) later
  have hrevoked := Run.step (.step hread (.start .default (.updateStatus revocation)))
    (step_operate (i := 2) (q := .updateStatus revocation) ⟨later, .nil⟩
      (show (⟨.epoch⟩ : Timestamp) ≤ later by decide) rfl trivial heq)
  refine ⟨_, next, l', hrevoked, rfl, rfl, hwritten.list_stored, ?_, ?_⟩
  · rw [hwritten.list_eq]
    rfl
  · rw [hwritten.list_eq]

end Sample

/-- When the settings are stored, the time of the sample list moves back, and no other one does. -/
theorem sample_updatedAt_moves_back : ∃ (s s' : Clocked) (l l' : StatusList), s.Run ∧ s.Step s' ∧
    s.system.memory.StoresList l ∧ s'.system.memory.StoresList l' ∧ l'.id = l.id ∧
    l'.updatedAt < l.updatedAt ∧ ∀ e, s.system.memory.StoresEntry e →
      ∃ e', s'.system.memory.StoresEntry e' ∧ e'.id = e.id ∧ e.updatedAt ≤ e'.updatedAt := by
  obtain ⟨s, next, l, hs, hclock, turn, hl, hid, hnow⟩ := Sample.run_revoked
  have hstep := Step.operate (s := s) ⟨Sample.later, .nil⟩ (by rw [hclock]; decide) turn trivial
  have h := updatedAt_moves_back_iff hs hstep
  obtain ⟨l', hl', hid', hiff⟩ := h.list_iff hl
  have hlt := hiff.mpr ⟨1, _, _, _, _, next, _, turn, rfl, hid.symm, by
    rw [hnow]
    exact Sample.epoch_lt_later⟩
  exact ⟨s, _, l, l', hs, hstep, hl, hl', hid', hlt, fun e he => h.entry he⟩

/-- A list is changed when its credential is revoked, and then the time of its change moves back:
settings are stored with the time that their call had read before. -/
theorem revocation_overtaken : ¬ ∀ s s' : Clocked, s.Run → s.Step s' → ∀ l l',
    s.system.memory.StoresList l → s'.system.memory.StoresList l' → l'.id = l.id →
      l.updatedAt ≤ l'.updatedAt := by
  intro hkept
  obtain ⟨s, next, l, hs, hclock, turn, hl, hid, hnow⟩ := Sample.run_revoked
  have hstored := Memory.answer_updateList hs.consistent hl hid.symm ⟨Sample.later, .nil⟩
  have hstep := Step.operate (s := s) ⟨Sample.later, .nil⟩ (by rw [hclock]; decide) turn trivial
  have hle := hkept _ _ hs hstep _ _ hl hstored rfl
  rw [hnow] at hle
  exact Timestamp.not_lt.mpr hle Sample.epoch_lt_later

end Clocked

end StatusRegistry

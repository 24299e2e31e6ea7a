import StatusRegistry.Proofs.Service.Dialogue

/-!
# One call among others

A call of a service as it meets a store in memory: turn by turn, with any operations of others
between its turns.  Its log is what the store answers at each turn, so what is known of the store
then is known of the log.

* `Turn`, `Course`: the turns of a call, each at the store as it is then;
* `Plays`: a program takes these turns and comes to a result;
* `Service.plays_bind_iff`, `Service.plays_read_bind_iff`: the turns of a service are the turns of
  its parts one after another;
* `Undisturbed`, `Alone`: no other call had a turn from the store on, up to the last turn.
-/

set_option autoImplicit false

namespace StatusRegistry

/-- A turn of a call: the store when the turn comes, what the operation is given from outside, and
what is asked. -/
structure Turn where
  before : Memory
  stamp : Stamp
  request : StoreRequest

namespace Turn

/-- The store after a turn. -/
def after (t : Turn) : Memory := (t.before.answer t.stamp t.request).2

/-- What is asked in a turn, with the answer. -/
def inquiry (t : Turn) : Inquiry := ⟨t.request, (t.before.answer t.stamp t.request).1⟩

end Turn

/-- The turns of a call lead from one store to another.  Before each of them, any operations of
others may have been carried out. -/
inductive Course : Memory → List Turn → Memory → Prop where
  | nil (m : Memory) : Course m [] m
  | cons {m m' : Memory} {t : Turn} {turns : List Turn} (leads : m.Leads t.before)
      (fresh : t.before.Fresh t.stamp.fresh t.request) (rest : Course t.after turns m') :
      Course m (t :: turns) m'

/-- Nothing is done by others from a store on, up to the last turn. -/
def Undisturbed : Memory → List Turn → Prop
  | _, [] => True
  | m, t :: turns => t.before = m ∧ Undisturbed t.after turns

namespace Course

variable {m m' m'' : Memory} {front back turns : List Turn}

theorem append (hfront : Course m front m') (hback : Course m' back m'') :
    Course m (front ++ back) m'' := by
  induction hfront with
  | nil m => exact hback
  | cons leads fresh _ ih => exact .cons leads fresh (ih hback)

theorem append_iff :
    Course m (front ++ back) m'' ↔ ∃ m', Course m front m' ∧ Course m' back m'' := by
  constructor
  · intro h
    induction front generalizing m with
    | nil => exact ⟨m, .nil m, h⟩
    | cons t front ih =>
      cases h with
      | cons leads fresh rest =>
        obtain ⟨m', hfront, hback⟩ := ih rest
        exact ⟨m', .cons leads fresh hfront, hback⟩
  · rintro ⟨m', hfront, hback⟩
    exact hfront.append hback

theorem leads (h : Course m turns m') : m.Leads m' := by
  induction h with
  | nil m => exact .refl
  | cons leads fresh _ ih => exact (leads.trans (.step _ _ .refl fresh)).trans ih

theorem undisturbed_append (h : Course m front m') :
    Undisturbed m (front ++ back) ↔ Undisturbed m front ∧ Undisturbed m' back := by
  induction h with
  | nil m => simp [Undisturbed]
  | cons leads fresh _ ih => simp only [List.cons_append, Undisturbed, ih, and_assoc]

end Course

/-- A program takes turns at a store that lead to another one, and comes to a result. -/
structure Plays {α : Type} (p : Program α) (m : Memory) (turns : List Turn) (m' : Memory) (a : α) :
    Prop where
  course : Course m turns m'
  log : p.Says (turns.map Turn.inquiry) a

/-- Left alone, a program leads from one store to another and comes to a result. -/
def Alone {α : Type} (p : Program α) (m m' : Memory) (a : α) : Prop :=
  ∃ turns, Plays p m turns m' a ∧ Undisturbed m turns

namespace Service

variable {α β : Type} {m m' : Memory} {turns : List Turn} {f : α → Service β}
  {r : Except ServiceError β}

theorem plays_pure_iff {b : β} :
    Plays (pure b : Service β).run m turns m' r ↔ turns = [] ∧ m' = m ∧ r = .ok b := by
  constructor
  · rintro ⟨hcourse, hsays⟩
    obtain ⟨hmap, rfl⟩ := says_pure_iff.mp hsays
    obtain rfl := List.map_eq_nil_iff.mp hmap
    cases hcourse
    exact ⟨rfl, rfl, rfl⟩
  · rintro ⟨rfl, rfl, rfl⟩
    exact ⟨.nil m', says_pure_iff.mpr ⟨rfl, rfl⟩⟩

theorem plays_throw_iff {err : ServiceError} :
    Plays (throw err : Service β).run m turns m' r ↔ turns = [] ∧ m' = m ∧ r = .error err := by
  constructor
  · rintro ⟨hcourse, hsays⟩
    obtain ⟨hmap, rfl⟩ := says_throw_iff.mp hsays
    obtain rfl := List.map_eq_nil_iff.mp hmap
    cases hcourse
    exact ⟨rfl, rfl, rfl⟩
  · rintro ⟨rfl, rfl, rfl⟩
    exact ⟨.nil m', says_throw_iff.mpr ⟨rfl, rfl⟩⟩

/-- A service takes the turns of its parts one after another, up to the first error. -/
theorem plays_bind_iff {x : Service α} :
    Plays (x >>= f).run m turns m' r ↔
      (∃ err, Plays x.run m turns m' (.error err) ∧ r = .error err) ∨
        ∃ a front back m₁, turns = front ++ back ∧ Plays x.run m front m₁ (.ok a) ∧
          Plays (f a).run m₁ back m' r := by
  constructor
  · rintro ⟨hcourse, hsays⟩
    rcases says_bind_iff.mp hsays with ⟨err, h, rfl⟩ | ⟨a, front, back, hmap, hfront, hback⟩
    · exact .inl ⟨err, ⟨hcourse, h⟩, rfl⟩
    · obtain ⟨front, back, rfl, rfl, rfl⟩ := List.map_eq_append_iff.mp hmap
      obtain ⟨m₁, hcourse₁, hcourse₂⟩ := Course.append_iff.mp hcourse
      exact .inr ⟨a, front, back, m₁, rfl, ⟨hcourse₁, hfront⟩, ⟨hcourse₂, hback⟩⟩
  · rintro (⟨err, h, rfl⟩ | ⟨a, front, back, m₁, rfl, hfront, hback⟩)
    · exact ⟨h.course, says_bind_iff.mpr (.inl ⟨err, h.log, rfl⟩)⟩
    · refine ⟨hfront.course.append hback.course, ?_⟩
      rw [List.map_append]
      exact says_bind_iff.mpr (.inr ⟨a, _, _, rfl, hfront.log, hback.log⟩)

theorem plays_check_bind_iff {x : Except ValidationError α} {a : α} (hx : x = .ok a) :
    Plays (check x >>= f).run m turns m' r ↔ Plays (f a).run m turns m' r := by
  have hnext : (check x >>= f).run = (f a).run := by
    rw [hx]
    rfl
  rw [hnext]

/-- The inquiries of a turn and those after it. -/
theorem map_inquiry_eq_cons {q : StoreRequest} {answer : q.Answer} {log : List Inquiry} :
    turns.map Turn.inquiry = ⟨q, answer⟩ :: log ↔
      ∃ before stamp rest, turns = ⟨before, stamp, q⟩ :: rest ∧
        answer = (before.answer stamp q).1 ∧ log = rest.map Turn.inquiry := by
  constructor
  · intro h
    obtain ⟨t, rest, rfl, ht, rfl⟩ := List.map_eq_cons_iff.mp h
    obtain ⟨before, stamp, request⟩ := t
    cases ht
    exact ⟨before, stamp, rest, rfl, rfl, rfl⟩
  · rintro ⟨before, stamp, rest, rfl, rfl, rfl⟩
    rfl

/-- One request is one turn. -/
theorem plays_ask_iff {q : StoreRequest} {read : q.Answer → Except StoreError α}
    {r : Except ServiceError α} :
    Plays (ofStore (.ask q fun answer => .done (read answer))).run m turns m' r ↔
      ∃ before stamp, m.Leads before ∧ before.Fresh stamp.fresh q ∧
        turns = [⟨before, stamp, q⟩] ∧ m' = (before.answer stamp q).2 ∧
        r = (read (before.answer stamp q).1).mapError .ofStore := by
  constructor
  · rintro ⟨hcourse, hsays⟩
    obtain ⟨answer, hmap, rfl⟩ := says_ask_iff.mp hsays
    obtain ⟨before, stamp, rest, rfl, rfl, hnil⟩ := map_inquiry_eq_cons.mp hmap
    obtain rfl := List.map_eq_nil_iff.mp hnil.symm
    cases hcourse with
    | cons leads fresh rest =>
      cases rest
      exact ⟨before, stamp, leads, fresh, rfl, rfl, rfl⟩
  · rintro ⟨before, stamp, leads, fresh, rfl, rfl, rfl⟩
    exact ⟨.cons leads fresh (.nil _), says_ask_iff.mpr ⟨_, rfl, rfl⟩⟩

/-- One request of which every answer is a value is one turn. -/
theorem plays_lift_bind_iff {q : StoreRequest} {f : q.Answer → Service β} :
    Plays (ExceptT.lift (Program.request q) >>= f).run m turns m' r ↔
      ∃ before stamp rest, m.Leads before ∧ before.Fresh stamp.fresh q ∧
        turns = ⟨before, stamp, q⟩ :: rest ∧
        Plays (f (before.answer stamp q).1).run (before.answer stamp q).2 rest m' r := by
  constructor
  · rintro ⟨hcourse, hsays⟩
    obtain ⟨answer, log, hmap, hrest⟩ := says_lift_bind_iff.mp hsays
    obtain ⟨before, stamp, rest, rfl, rfl, rfl⟩ := map_inquiry_eq_cons.mp hmap
    cases hcourse with
    | cons leads fresh hcourse =>
      exact ⟨before, stamp, rest, leads, fresh, rfl, hcourse, hrest⟩
  · rintro ⟨before, stamp, rest, leads, fresh, rfl, hcourse, hrest⟩
    exact ⟨.cons leads fresh hcourse, says_lift_bind_iff.mpr ⟨_, _, rfl, hrest⟩⟩

/-- A request reads a value from every store and leaves the store as it is. -/
structure Reads (q : StoreRequest) (read : q.Answer → Except StoreError α) (value : Memory → α) :
    Prop where
  read_eq : ∀ (m : Memory) stamp, read (m.answer stamp q).1 = .ok (value m)
  after_eq : ∀ (m : Memory) stamp, (m.answer stamp q).2 = m
  fresh : ∀ (m : Memory) id, m.Fresh id q

/-- A reading is one turn, after which a service goes on with what it read. -/
theorem plays_read_bind_iff {q : StoreRequest} {read : q.Answer → Except StoreError α}
    {value : Memory → α} (hq : Reads q read value) :
    Plays (ofStore (.ask q fun answer => .done (read answer)) >>= f).run m turns m' r ↔
      ∃ before stamp rest, m.Leads before ∧ turns = ⟨before, stamp, q⟩ :: rest ∧
        Plays (f (value before)).run before rest m' r := by
  rw [plays_bind_iff]
  constructor
  · rintro (⟨err, h, -⟩ | ⟨a, front, back, m₁, rfl, h, hback⟩)
    · obtain ⟨before, stamp, -, -, -, -, herr⟩ := plays_ask_iff.mp h
      rw [hq.read_eq] at herr
      cases herr
    · obtain ⟨before, stamp, leads, -, rfl, rfl, ha⟩ := plays_ask_iff.mp h
      rw [hq.read_eq] at ha
      cases ha
      rw [hq.after_eq] at hback
      exact ⟨before, stamp, back, leads, rfl, hback⟩
  · rintro ⟨before, stamp, rest, leads, rfl, h⟩
    refine .inr ⟨value before, [⟨before, stamp, q⟩], rest, before, rfl, ?_, h⟩
    refine plays_ask_iff.mpr ⟨before, stamp, leads, hq.fresh _ _, rfl, (hq.after_eq _ _).symm, ?_⟩
    rw [hq.read_eq]
    rfl

theorem reads_findEntry (credential : CredentialId) (purpose : Purpose) :
    Reads (.findEntry credential purpose) (fun answer => answer)
      fun m => m.findEntry credential purpose :=
  ⟨fun _ _ => rfl, fun _ _ => rfl, fun _ _ => trivial⟩

theorem reads_findAvailable (issuer : IssuerId) (purpose : Purpose) (width : SlotWidth) :
    Reads (.findAvailable issuer purpose width) (fun answer => answer)
      fun m => m.findAvailable issuer purpose width :=
  ⟨fun _ _ => rfl, fun _ _ => rfl, fun _ _ => trivial⟩

theorem reads_findList (list : ListId) :
    Reads (.findList list) (fun answer => answer) fun m => m.findList list :=
  ⟨fun _ _ => rfl, fun _ _ => rfl, fun _ _ => trivial⟩

/-! ## Left alone -/

theorem alone_pure {b : β} : Alone (pure b : Service β).run m m (.ok b) :=
  ⟨[], plays_pure_iff.mpr ⟨rfl, rfl, rfl⟩, trivial⟩

theorem alone_bind {x : Service α} {a : α} {m₁ : Memory} (hx : Alone x.run m m₁ (.ok a))
    (hf : Alone (f a).run m₁ m' r) : Alone (x >>= f).run m m' r := by
  obtain ⟨front, hfront, halone⟩ := hx
  obtain ⟨back, hback, halone'⟩ := hf
  exact ⟨front ++ back, plays_bind_iff.mpr (.inr ⟨a, front, back, m₁, rfl, hfront, hback⟩),
    hfront.course.undisturbed_append.mpr ⟨halone, halone'⟩⟩

theorem alone_check_bind {x : Except ValidationError α} {a : α} (hx : x = .ok a)
    (hf : Alone (f a).run m m' r) : Alone (check x >>= f).run m m' r := by
  obtain ⟨turns, hplays, halone⟩ := hf
  exact ⟨turns, (plays_check_bind_iff hx).mpr hplays, halone⟩

theorem alone_ask {q : StoreRequest} {read : q.Answer → Except StoreError α} {stamp : Stamp} {a : α}
    (hfresh : m.Fresh stamp.fresh q) (hread : read (m.answer stamp q).1 = .ok a) :
    Alone (ofStore (.ask q fun answer => .done (read answer))).run m (m.answer stamp q).2
      (.ok a) := by
  refine ⟨[⟨m, stamp, q⟩], plays_ask_iff.mpr ⟨m, stamp, .refl, hfresh, rfl, rfl, ?_⟩, rfl, trivial⟩
  rw [hread]
  rfl

theorem alone_read {q : StoreRequest} {read : q.Answer → Except StoreError α} {value : Memory → α}
    (hq : Reads q read value) (stamp : Stamp) :
    Alone (ofStore (.ask q fun answer => .done (read answer))).run m m (.ok (value m)) := by
  have h := alone_ask (hq.fresh m stamp.fresh) (hq.read_eq m stamp)
  rwa [hq.after_eq] at h

theorem alone_lift {q : StoreRequest} {stamp : Stamp} (hfresh : m.Fresh stamp.fresh q) :
    Alone (ExceptT.lift (Program.request q) : Service q.Answer).run m (m.answer stamp q).2
      (.ok (m.answer stamp q).1) :=
  ⟨[⟨m, stamp, q⟩], ⟨.cons .refl hfresh (.nil _), .ask q _ (.done _)⟩, rfl, trivial⟩

end Service

end StatusRegistry

import StatusRegistry.Proofs.Store.History
import StatusRegistry.Service.Lists

/-!
# Programs among others

What a program over a store does when other callers of the store take turns with it.  Between two
of its steps the store may go through any operations of others; at its own steps it sees the answer
of the store as it is then.

* `Program.Keeps`: whatever the others do, the program asks only for what it may ask for, and it
  ends only with a good result;
* `Program.Keeps.bind`, `Service.Keeps.bind`: one program after another;
* `Service.keeps_ofStore`: one request of a service.
-/

set_option autoImplicit false

namespace StatusRegistry

/-- The entry that an operation made. -/
def StoreRequest.made : (q : StoreRequest) → q.Answer → List StatusEntry
  | .createEntry _, .ok e => [e]
  | .createEntry _, .error _ => []
  | .createList _, _ => []
  | .findList _, _ => []
  | .findAvailable _ _ _, _ => []
  | .updateList _, _ => []
  | .findEntry _ _, _ => []
  | .updateStatus _, _ => []

theorem Memory.Change.byCredential_eq {m m' : Memory} {stamp : Stamp} {q : StoreRequest}
    (h : Memory.Change m stamp q m') (hq : ∀ r, q ≠ .createEntry r) :
    m'.byCredential = m.byCredential := by
  cases h with
  | entry allots => exact absurd rfl (hq _)
  | _ => rfl

/-- An operation makes no entry and leaves the table of credentials as it is, or it makes one. -/
theorem Memory.answer_made (m : Memory) (stamp : Stamp) (q : StoreRequest) :
    q.made (m.answer stamp q).1 = [] ∧ (m.answer stamp q).2.byCredential = m.byCredential ∨
      ∃ r l, q = .createEntry r ∧ Memory.Allots m l r ∧
        q.made (m.answer stamp q).1 = [Memory.entryIn l r stamp] ∧
        (m.answer stamp q).2 = m.allotted l r stamp := by
  have hchange := Memory.answer_change m stamp q
  cases q with
  | createEntry r =>
    cases hanswer : (m.answer stamp (.createEntry r)).1 with
    | error err =>
      rw [Memory.createEntry_answer_error hanswer]
      exact .inl ⟨rfl, rfl⟩
    | ok e =>
      obtain ⟨l, hallots, rfl, hm⟩ := Memory.createEntry_answer hanswer
      exact .inr ⟨r, l, rfl, hallots, rfl, hm⟩
  | _ =>
    refine .inl ⟨rfl, hchange.byCredential_eq ?_⟩
    rintro r ⟨⟩

/-- A store as one of its callers sees it, with the entries that were made for this caller. -/
structure View where
  memory : Memory
  consistent : memory.Consistent
  made : List StatusEntry

namespace View

/-- The view after others had their turns. -/
structure Leads (v v' : View) : Prop where
  memory : v.memory.Leads v'.memory
  made_eq : v'.made = v.made

/-- The view after an operation of the caller itself. -/
def after (v : View) (stamp : Stamp) (q : StoreRequest) (hfresh : v.memory.Fresh stamp.fresh q) :
    View :=
  ⟨(v.memory.answer stamp q).2, Memory.answer_consistent v.consistent hfresh,
    v.made ++ q.made (v.memory.answer stamp q).1⟩

theorem Leads.refl (v : View) : v.Leads v := ⟨.refl, rfl⟩

theorem Leads.trans {v v' v'' : View} (h : v.Leads v') (h' : v'.Leads v'') : v.Leads v'' :=
  ⟨h.memory.trans h'.memory, h'.made_eq.trans h.made_eq⟩

theorem Leads.extends {v v' : View} (h : v.Leads v') : v.memory.Extends v'.memory :=
  h.memory.extends v.consistent

/-- A reading leaves the view as it is. -/
theorem after_eq_self {v : View} {stamp : Stamp} {q : StoreRequest}
    {hfresh : v.memory.Fresh stamp.fresh q} (hmemory : (v.memory.answer stamp q).2 = v.memory)
    (hmade : q.made (v.memory.answer stamp q).1 = []) : v.after stamp q hfresh = v := by
  cases v with
  | mk memory consistent made =>
    simp only [after, mk.injEq]
    exact ⟨hmemory, by rw [hmade, List.append_nil]⟩

end View

/-! ## Programs -/

namespace Program

variable {α β : Type} {may may' : View → StoreRequest → Prop} {good good' : View → α → Prop}
  {v : View}

/-- Whatever others do between its steps, a program asks only for what it may ask for, and it ends
only with a good result. -/
def Keeps (may : View → StoreRequest → Prop) (good : View → α → Prop) : View → Program α → Prop
  | v, .done a => ∀ v', v.Leads v' → good v' a
  | v, .ask q next => ∀ v', v.Leads v' → may v' q ∧
      ∀ stamp (hfresh : v'.memory.Fresh stamp.fresh q),
        Keeps may good (v'.after stamp q hfresh) (next (v'.memory.answer stamp q).1)
  | v, .clock next => ∀ now, Keeps may good v (next now)

/-- What a program keeps it keeps after others had their turns. -/
theorem Keeps.leads {p : Program α} (hp : p.Keeps may good v) {v' : View} (h : v.Leads v') :
    p.Keeps may good v' := by
  induction p with
  | done a =>
    intro v'' h'
    exact hp v'' (h.trans h')
  | ask q next =>
    intro v'' h'
    exact hp v'' (h.trans h')
  | clock next ih =>
    intro now
    exact ih now (hp now)

theorem Keeps.weaken {p : Program α} (hmay : ∀ v q, may v q → may' v q)
    (hgood : ∀ v a, good v a → good' v a) (hp : p.Keeps may good v) : p.Keeps may' good' v := by
  induction p generalizing v with
  | done a =>
    intro v' h
    exact hgood v' a (hp v' h)
  | ask q next ih =>
    intro v' h
    obtain ⟨hask, hnext⟩ := hp v' h
    exact ⟨hmay v' q hask, fun stamp hfresh => ih _ (hnext stamp hfresh)⟩
  | clock next ih =>
    intro now
    exact ih now (hp now)

/-- One program after another. -/
theorem Keeps.bind {mid : View → β → Prop} {p : Program β} {f : β → Program α}
    (hp : p.Keeps may mid v) (hf : ∀ v' b, mid v' b → (f b).Keeps may good v') :
    (p.bind f).Keeps may good v := by
  induction p generalizing v with
  | done b => exact hf v b (hp v (.refl v))
  | ask q next ih =>
    intro v' h
    obtain ⟨hmay, hnext⟩ := hp v' h
    exact ⟨hmay, fun stamp hfresh => ih _ (hnext stamp hfresh)⟩
  | clock next ih =>
    intro now
    exact ih now (hp now)

theorem keeps_any (p : Program α) (v : View) : p.Keeps (fun _ _ => True) (fun _ _ => True) v := by
  induction p generalizing v with
  | done a => exact fun _ _ => trivial
  | ask q next ih => exact fun v' _ => ⟨trivial, fun stamp hfresh => ih _ _⟩
  | clock next ih => exact fun now => ih now v

end Program

/-! ## Services -/

namespace Service

variable {α β : Type} {may : View → StoreRequest → Prop} {good : View → α → Prop} {v : View}

/-- What a service keeps, where only a value is a result that has to be good. -/
def Keeps (may : View → StoreRequest → Prop) (good : View → α → Prop) (v : View)
    (s : Service α) : Prop :=
  Program.Keeps may (fun v result => ∀ a, result = .ok a → good v a) v s.run

theorem Keeps.bind (mid : View → β → Prop) {s : Service β} {f : β → Service α}
    (hs : s.Keeps may mid v) (hf : ∀ v' b, mid v' b → (f b).Keeps may good v') :
    (s >>= f).Keeps may good v := by
  refine Program.Keeps.bind hs ?_
  intro v' result hresult
  cases result with
  | ok b => exact hf v' b (hresult b rfl)
  | error err =>
    intro v'' _ a ha
    cases ha

theorem keeps_pure {a : α} (h : ∀ v', v.Leads v' → good v' a) :
    Keeps may good v (pure a : Service α) := by
  intro v' hv' a' ha'
  cases ha'
  exact h v' hv'

theorem keeps_throw (err : ServiceError) : Keeps may good v (throw err : Service α) := by
  intro v' _ a ha
  cases ha

theorem keeps_check {result : Except ValidationError α}
    (h : ∀ a, result = .ok a → ∀ v', v.Leads v' → good v' a) :
    (check result).Keeps may good v := by
  intro v' hv' a ha
  cases result with
  | ok b =>
    cases ha
    exact h _ rfl v' hv'
  | error err => cases ha

/-- One request of a service: it may be made, and every answer that is a value is good. -/
theorem keeps_ofStore (q : StoreRequest) (answer : q.Answer → Except StoreError α)
    (hmay : ∀ v', v.Leads v' → may v' q)
    (hgood : ∀ v', v.Leads v' → ∀ stamp (hfresh : v'.memory.Fresh stamp.fresh q) a,
      answer (v'.memory.answer stamp q).1 = .ok a →
        ∀ v'', (v'.after stamp q hfresh).Leads v'' → good v'' a) :
    (ofStore (.ask q fun result => .done (answer result))).Keeps may good v := by
  intro v' hv'
  refine ⟨hmay v' hv', ?_⟩
  intro stamp hfresh v'' hv'' a ha
  apply hgood v' hv' stamp hfresh a _ v'' hv''
  generalize answer (v'.memory.answer stamp q).1 = result at ha ⊢
  cases result with
  | ok b =>
    cases ha
    rfl
  | error err => cases ha

/-- One request, of which every answer is a value. -/
theorem keeps_lift {q : StoreRequest} {good : View → q.Answer → Prop}
    (hmay : ∀ v', v.Leads v' → may v' q)
    (hgood : ∀ v', v.Leads v' → ∀ stamp (hfresh : v'.memory.Fresh stamp.fresh q) v'',
      (v'.after stamp q hfresh).Leads v'' → good v'' (v'.memory.answer stamp q).1) :
    Keeps may good v (ExceptT.lift (Program.request q)) := by
  intro v' hv'
  refine ⟨hmay v' hv', ?_⟩
  intro stamp hfresh v'' hv'' a ha
  cases ha
  exact hgood v' hv' stamp hfresh v'' hv''

end Service

end StatusRegistry

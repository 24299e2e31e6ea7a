import StatusRegistry.Proofs.Service.Program
import StatusRegistry.Proofs.Talk

/-!
# What programs ask

A program asks a store, and what it asks next depends on the answers.  Here it is followed for
every sequence of answers, whatever store gives them: one in memory, a database that fails, or one
that answers at random.

* `Program.Says`: with the answers of a log, a program asks what the log says and comes to a result;
* `Program.says_run`: whatever answers a program, it says some log;
* `Service.says_bind_iff`, `Service.says_check_bind_iff`, `Service.says_ask_bind_iff`: the log of a
  service is the logs of its parts in turn, up to the first error;
* `Inquiry.made`, `NoneMade`: the entries that were made in a log.
-/

set_option autoImplicit false

namespace StatusRegistry

/-- A request to a store with the answer to it. -/
structure Inquiry where
  request : StoreRequest
  answer : request.Answer

namespace Program

variable {α β : Type}

/-- A program as a talk, of which each request is noted with its answer, and no reading of the
clock. -/
def talk : Program α → Talk Inquiry α
  | done a => .done a
  | ask q next => .ask (fun answer => [⟨q, answer⟩]) fun answer => (next answer).talk
  | clock next => .ask (fun _ => []) fun now => (next now).talk

theorem talk_bind (p : Program α) (f : α → Program β) :
    (p.bind f).talk = p.talk.bind fun a => (f a).talk := by
  induction p with
  | done a => rfl
  | ask q next ih => exact congrArg (Talk.ask _) (funext ih)
  | clock next ih => exact congrArg (Talk.ask _) (funext ih)

/-- With the answers of the log, the program asks what the log says and comes to the result. -/
def Says (p : Program α) (log : List Inquiry) (a : α) : Prop := p.talk.Says log a

theorem Says.done (a : α) : (Program.done a).Says [] a := Talk.Says.done a

theorem Says.ask (q : StoreRequest) {next : q.Answer → Program α} (answer : q.Answer)
    {log : List Inquiry} {a : α} (h : (next answer).Says log a) :
    (Program.ask q next).Says (⟨q, answer⟩ :: log) a :=
  Talk.Says.ask answer h

theorem Says.clock {next : Timestamp → Program α} (now : Timestamp) {log : List Inquiry} {a : α}
    (h : (next now).Says log a) : (Program.clock next).Says log a :=
  Talk.Says.ask now h

/-- Whatever answers a program, it says some log and comes to a result. -/
theorem says_run {σ : Type} (answer : σ → (q : StoreRequest) → q.Answer × σ) (now : Timestamp)
    (s : σ) (p : Program α) : ∃ log, p.Says log (p.run answer now s).1 := by
  induction p generalizing s with
  | done a => exact ⟨[], .done a⟩
  | ask q next ih =>
    obtain ⟨log, hlog⟩ := ih (answer s q).1 (answer s q).2
    exact ⟨_, .ask q _ hlog⟩
  | clock next ih =>
    obtain ⟨log, hlog⟩ := ih now s
    exact ⟨log, .clock now hlog⟩

theorem says_done_iff {a b : α} {log : List Inquiry} :
    (done a).Says log b ↔ log = [] ∧ b = a :=
  Talk.says_done_iff

theorem says_ask_iff {q : StoreRequest} {next : q.Answer → Program α} {log : List Inquiry} {b : α} :
    (ask q next).Says log b ↔ ∃ answer rest, log = ⟨q, answer⟩ :: rest ∧
      (next answer).Says rest b :=
  Talk.says_ask_iff

theorem says_clock_iff {next : Timestamp → Program α} {log : List Inquiry} {b : α} :
    (clock next).Says log b ↔ ∃ now, (next now).Says log b := by
  refine Talk.says_ask_iff.trans (exists_congr fun now => ?_)
  simp only [List.nil_append, exists_eq_left', Says]

end Program

/-! ## Services -/

namespace Service

variable {α β : Type} {log : List Inquiry} {f : α → Service β} {r : Except ServiceError β}

theorem says_pure_iff {b : β} :
    (pure b : Service β).run.Says log r ↔ log = [] ∧ r = .ok b :=
  Program.says_done_iff

theorem says_throw_iff {err : ServiceError} :
    (throw err : Service β).run.Says log r ↔ log = [] ∧ r = .error err :=
  Program.says_done_iff

theorem talk_bind (x : Service α) (f : α → Service β) :
    (x >>= f).run.talk = x.run.talk.bindOk fun a => (f a).run.talk := by
  refine (Program.talk_bind x.run (ExceptT.bindCont f)).trans (congrArg _ (funext fun r => ?_))
  cases r <;> rfl

/-- A service goes on after a part that came to a value, and ends with the error of one that did
not. -/
theorem says_bind_iff {x : Service α} :
    (x >>= f).run.Says log r ↔
      (∃ err, x.run.Says log (.error err) ∧ r = .error err) ∨
        ∃ a front back, log = front ++ back ∧ x.run.Says front (.ok a) ∧
          (f a).run.Says back r := by
  rw [Program.Says, talk_bind]
  exact Talk.says_bindOk_iff

/-- A check asks nothing. -/
theorem says_check_bind_iff {x : Except ValidationError α} :
    (check x >>= f).run.Says log r ↔
      (∃ err, x = .error err ∧ log = [] ∧ r = .error (.validation err)) ∨
        ∃ a, x = .ok a ∧ (f a).run.Says log r := by
  have hknown : (check x).run.talk = .done (x.mapError .validation) := rfl
  rw [Program.Says, talk_bind, hknown, Talk.says_known_bindOk_iff]
  refine or_congr ?_ ?_
  · constructor
    · rintro ⟨err, herr, rfl, rfl⟩
      obtain ⟨cause, rfl, rfl⟩ := mapError_eq_error_iff.mp herr
      exact ⟨cause, rfl, rfl, rfl⟩
    · rintro ⟨err, rfl, rfl, rfl⟩
      exact ⟨.validation err, rfl, rfl, rfl⟩
  · exact exists_congr fun a => and_congr_left' mapError_eq_ok_iff

/-- One request of a service, as a talk. -/
theorem talk_ask (q : StoreRequest) (read : q.Answer → Except StoreError α) :
    (ofStore (.ask q fun answer => .done (read answer))).run.talk =
      .ask (fun answer => [⟨q, answer⟩]) fun answer => .done ((read answer).mapError .ofStore) :=
  rfl

/-- One request of a service: its answer stands for a value or for an error of the store. -/
theorem says_ask_iff {q : StoreRequest} {read : q.Answer → Except StoreError α}
    {r : Except ServiceError α} :
    (ofStore (.ask q fun answer => .done (read answer))).run.Says log r ↔
      ∃ answer, log = [⟨q, answer⟩] ∧ r = (read answer).mapError .ofStore := by
  rw [Program.Says, talk_ask]
  exact Talk.says_read_iff

theorem says_ask_bind_iff {q : StoreRequest} {read : q.Answer → Except StoreError α} :
    (ofStore (.ask q fun answer => .done (read answer)) >>= f).run.Says log r ↔
      (∃ answer err, log = [⟨q, answer⟩] ∧ read answer = .error err ∧ r = .error (.ofStore err)) ∨
        ∃ answer a rest, log = ⟨q, answer⟩ :: rest ∧ read answer = .ok a ∧
          (f a).run.Says rest r := by
  rw [Program.Says, talk_bind, talk_ask, Talk.says_read_bindOk_iff]
  refine or_congr ?_ ?_
  · constructor
    · rintro ⟨answer, err, rfl, hread, rfl⟩
      obtain ⟨cause, hcause, rfl⟩ := mapError_eq_error_iff.mp hread
      exact ⟨answer, cause, rfl, hcause, rfl⟩
    · rintro ⟨answer, err, rfl, hread, rfl⟩
      exact ⟨answer, .ofStore err, rfl, mapError_eq_error_iff.mpr ⟨err, hread, rfl⟩, rfl⟩
  · simp only [mapError_eq_ok_iff]
    rfl

/-- One request of which every answer is a value. -/
theorem says_lift_bind_iff {q : StoreRequest} {f : q.Answer → Service β} :
    (ExceptT.lift (Program.request q) >>= f).run.Says log r ↔
      ∃ answer rest, log = ⟨q, answer⟩ :: rest ∧ (f answer).run.Says rest r := by
  have hask : (ExceptT.lift (Program.request q) >>= f).run = .ask q fun answer =>
      (f answer).run := rfl
  rw [hask, Program.says_ask_iff]

end Service

/-! ## Entries -/

/-- The entry that was made with an answer. -/
def Inquiry.made (x : Inquiry) : List StatusEntry := x.request.made x.answer

/-- No entry was made in a log. -/
def NoneMade (log : List Inquiry) : Prop := ∀ x ∈ log, x.made = []

theorem noneMade_nil : NoneMade [] := by
  rintro x ⟨⟩

theorem noneMade_append {front back : List Inquiry} :
    NoneMade (front ++ back) ↔ NoneMade front ∧ NoneMade back :=
  List.forall_mem_append

theorem noneMade_cons {x : Inquiry} {log : List Inquiry} :
    NoneMade (x :: log) ↔ x.made = [] ∧ NoneMade log :=
  List.forall_mem_cons

theorem NoneMade.flatMap_made {log : List Inquiry} (h : NoneMade log) :
    log.flatMap Inquiry.made = [] :=
  List.flatMap_eq_nil_iff.mpr h

/-- A request that makes an entry, in a log that makes none before its last request, is the last
one. -/
theorem NoneMade.eq_last {front before after : List Inquiry} {x y : Inquiry} (h : NoneMade front)
    (hx : x.made ≠ []) (heq : front ++ [y] = before ++ x :: after) : after = [] ∧ y = x := by
  rcases List.eq_nil_or_concat after with rfl | ⟨after', z, rfl⟩
  · exact ⟨rfl, List.singleton_inj.mp (List.append_inj' heq rfl).2⟩
  · rw [List.concat_eq_append, ← List.cons_append, ← List.append_assoc] at heq
    exact absurd (h x (by rw [(List.append_inj' heq rfl).1]; simp)) hx

end StatusRegistry

import StatusRegistry.Proofs.Talk
import StatusRegistry.Store.Database

/-!
# What sessions say

A session sends statements, and what it sends next depends on the answers.  Here it is followed for
every sequence of answers, with no database behind them.

* `Session.Says`: with the answers of a log, a session sends the statements of the log and comes to
  a result;
* `says_bind_iff`, `says_work_bind_iff`: the log of a session is the logs of its parts in turn;
* `says_query_bind_iff`, `says_lift_bind_iff`, `says_read_bind_iff`: how a log begins, by the first
  step of its session;
* `run_bind`, `run_work_bind_ok`, `run_work_bind_error`: the same for a session that a database
  answers.
-/

set_option autoImplicit false

namespace StatusRegistry

/-- A statement with the answer to it. -/
structure Exchange where
  statement : Statement
  answer : Except DatabaseFault statement.Answer

/-- The statement was answered without a fault. -/
def Exchange.Acknowledged (x : Exchange) : Prop := ∃ a, x.answer = .ok a

namespace Session

variable {α β : Type}

/-- A session as a talk, of which each statement is noted with its answer. -/
def talk : Session α → Talk Exchange α
  | done a => .done a
  | send statement next => .ask (fun answer => [⟨statement, answer⟩]) fun answer =>
    (next answer).talk

theorem talk_bind (s : Session α) (f : α → Session β) :
    (s.bind f).talk = s.talk.bind fun a => (f a).talk := by
  induction s with
  | done a => rfl
  | send statement next ih => exact congrArg (Talk.ask _) (funext ih)

/-- With the answers of the log, the session sends the statements of the log and comes to the
result. -/
def Says (s : Session α) (log : List Exchange) (a : α) : Prop := s.talk.Says log a

theorem Says.done (a : α) : (Session.done a).Says [] a := Talk.Says.done a

theorem Says.send (statement : Statement) {next : Except DatabaseFault statement.Answer → Session α}
    (answer : Except DatabaseFault statement.Answer) {log : List Exchange} {a : α}
    (h : (next answer).Says log a) :
    (Session.send statement next).Says (⟨statement, answer⟩ :: log) a :=
  Talk.Says.ask answer h

/-! ## Logs of longer sessions -/

theorem says_done_iff {a b : α} {log : List Exchange} :
    (done a).Says log b ↔ log = [] ∧ b = a :=
  Talk.says_done_iff

/-- A session that goes on says what both parts say. -/
theorem says_bind_iff {s : Session α} {f : α → Session β} {log : List Exchange} {b : β} :
    (s.bind f).Says log b ↔
      ∃ front a back, log = front ++ back ∧ s.Says front a ∧ (f a).Says back b := by
  rw [Says, talk_bind]
  exact Talk.says_bind_iff

/-! ## Sessions that end at an error -/

section Work

variable {f : α → ExceptT StoreError Session β} {log : List Exchange} {r : Except StoreError β}

theorem says_pure_iff {b : β} :
    (pure b : ExceptT StoreError Session β).run.Says log r ↔ log = [] ∧ r = .ok b :=
  says_done_iff

theorem says_throw_iff {e : StoreError} :
    (throw e : ExceptT StoreError Session β).run.Says log r ↔ log = [] ∧ r = .error e :=
  says_done_iff

theorem talk_work_bind (x : ExceptT StoreError Session α)
    (f : α → ExceptT StoreError Session β) :
    (x >>= f).run.talk = x.run.talk.bindOk fun a => (f a).run.talk := by
  refine (talk_bind x.run (ExceptT.bindCont f)).trans (congrArg _ (funext fun r => ?_))
  cases r <;> rfl

/-- A session goes on after a part that came to a value, and ends with the error of one that did
not. -/
theorem says_work_bind_iff {x : ExceptT StoreError Session α} :
    (x >>= f).run.Says log r ↔
      (∃ e, x.run.Says log (.error e) ∧ r = .error e) ∨
        ∃ a front back, log = front ++ back ∧ x.run.Says front (.ok a) ∧
          (f a).run.Says back r := by
  rw [Says, talk_work_bind]
  exact Talk.says_bindOk_iff

/-- A step without statements is not in the log. -/
theorem says_lift_bind_iff {x : Except StoreError α} :
    (lift x >>= f).run.Says log r ↔
      (∃ e, x = .error e ∧ log = [] ∧ r = .error e) ∨ ∃ a, x = .ok a ∧ (f a).run.Says log r := by
  rw [Says, talk_work_bind]
  exact Talk.says_known_bindOk_iff

/-- A statement whose faults are told as errors. -/
theorem says_send_bind_iff {statement : Statement} {tell : DatabaseFault → StoreError}
    {f : statement.Answer → ExceptT StoreError Session β} :
    (ExceptT.mk (send statement fun answer => done (answer.mapError tell)) >>= f).run.Says log r ↔
      (∃ fault, log = [⟨statement, .error fault⟩] ∧ r = .error (tell fault)) ∨
        ∃ a rest, log = ⟨statement, .ok a⟩ :: rest ∧ (f a).run.Says rest r := by
  have hsend : (ExceptT.mk (send statement fun answer => done (answer.mapError tell))).run.talk =
      .ask (fun answer => [⟨statement, answer⟩]) fun answer => .done (answer.mapError tell) := rfl
  rw [Says, talk_work_bind, hsend, Talk.says_read_bindOk_iff]
  refine or_congr ?_ ?_
  · constructor
    · rintro ⟨answer, e, rfl, hanswer, rfl⟩
      obtain ⟨fault, rfl, rfl⟩ := mapError_eq_error_iff.mp hanswer
      exact ⟨fault, rfl, rfl⟩
    · rintro ⟨fault, rfl, rfl⟩
      exact ⟨.error fault, tell fault, rfl, rfl, rfl⟩
  · constructor
    · rintro ⟨answer, a, rest, rfl, hanswer, h⟩
      cases mapError_eq_ok_iff.mp hanswer
      exact ⟨a, rest, rfl, h⟩
    · rintro ⟨a, rest, rfl, h⟩
      exact ⟨.ok a, a, rest, rfl, rfl, h⟩

theorem says_query_bind_iff {statement : Statement}
    {f : statement.Answer → ExceptT StoreError Session β} :
    (query statement >>= f).run.Says log r ↔
      (∃ fault, log = [⟨statement, .error fault⟩] ∧ r = .error (.database fault)) ∨
        ∃ a rest, log = ⟨statement, .ok a⟩ :: rest ∧ (f a).run.Says rest r :=
  says_send_bind_iff

/-- A statement whose answer stands for a value, or for none. -/
theorem says_read_bind_iff {statement : Statement} {read : statement.Answer → Except StoreError α} :
    ((do lift (read (← query statement))) >>= f).run.Says log r ↔
      (∃ fault, log = [⟨statement, .error fault⟩] ∧ r = .error (.database fault)) ∨
        (∃ a e, log = [⟨statement, .ok a⟩] ∧ read a = .error e ∧ r = .error e) ∨
          ∃ a b rest, log = ⟨statement, .ok a⟩ :: rest ∧ read a = .ok b ∧
            (f b).run.Says rest r := by
  rw [says_work_bind_iff]
  constructor
  · rintro (⟨e, h, rfl⟩ | ⟨b, front, back, rfl, h, hback⟩)
    · rcases says_query_bind_iff.mp h with ⟨fault, rfl, he⟩ | ⟨a, rest, rfl, hrest⟩
      · cases he
        exact .inl ⟨fault, rfl, rfl⟩
      · obtain ⟨rfl, hread⟩ := says_done_iff.mp hrest
        exact .inr (.inl ⟨a, e, rfl, hread.symm, rfl⟩)
    · rcases says_query_bind_iff.mp h with ⟨fault, rfl, hb⟩ | ⟨a, rest, rfl, hrest⟩
      · cases hb
      · obtain ⟨rfl, hread⟩ := says_done_iff.mp hrest
        exact .inr (.inr ⟨a, b, back, rfl, hread.symm, hback⟩)
  · rintro (⟨fault, rfl, rfl⟩ | ⟨a, e, rfl, hread, rfl⟩ | ⟨a, b, rest, rfl, hread, h⟩)
    · exact .inl ⟨_, says_query_bind_iff.mpr (.inl ⟨fault, rfl, rfl⟩), rfl⟩
    · exact .inl ⟨e, says_query_bind_iff.mpr
        (.inr ⟨a, [], rfl, says_done_iff.mpr ⟨rfl, hread.symm⟩⟩), rfl⟩
    · exact .inr ⟨b, [_], rest, rfl, says_query_bind_iff.mpr
        (.inr ⟨a, [], rfl, says_done_iff.mpr ⟨rfl, hread.symm⟩⟩), h⟩

end Work

/-! ## Answered sessions -/

section Answered

variable {σ : Type} {answer : σ → (s : Statement) → Except DatabaseFault s.Answer × σ} {db db' : σ}

theorem run_bind (s : Session α) (f : α → Session β) :
    (s.bind f).run answer db = (f (s.run answer db).1).run answer (s.run answer db).2 := by
  induction s generalizing db with
  | done a => rfl
  | send statement next ih => exact ih (answer db statement).1

variable {x : ExceptT StoreError Session α} {f : α → ExceptT StoreError Session β}

/-- A session goes on from the database that its first part leaves. -/
theorem run_work_bind_ok {a : α} (h : x.run.run answer db = (.ok a, db')) :
    (x >>= f).run.run answer db = (f a).run.run answer db' := by
  have hbind : (x >>= f).run = x.run.bind (ExceptT.bindCont f) := rfl
  rw [hbind, run_bind, h]
  rfl

theorem run_work_bind_error {e : StoreError} (h : x.run.run answer db = (.error e, db')) :
    (x >>= f).run.run answer db = (.error e, db') := by
  have hbind : (x >>= f).run = x.run.bind (ExceptT.bindCont f) := rfl
  rw [hbind, run_bind, h]
  rfl

theorem run_lift {y result : Except StoreError α} (h : y = result) :
    (lift y).run.run answer db = (result, db) := by
  rw [h]
  rfl

/-- A statement whose faults are told as errors. -/
theorem run_send {statement : Statement} {tell : DatabaseFault → StoreError}
    {result : Except DatabaseFault statement.Answer} (h : answer db statement = (result, db')) :
    (ExceptT.mk (send statement fun a => done (a.mapError tell))).run.run answer db =
      (result.mapError tell, db') := by
  have hrun : (ExceptT.mk (send statement fun a => done (a.mapError tell))).run.run answer db =
      ((answer db statement).1.mapError tell, (answer db statement).2) := rfl
  rw [hrun, h]

/-- A statement that is answered without a fault. -/
theorem run_query {statement : Statement} {a : statement.Answer}
    (h : answer db statement = (.ok a, db')) :
    (query statement).run.run answer db = (.ok a, db') :=
  run_send h

end Answered

end Session

end StatusRegistry

import StatusRegistry.Proofs.Steps

/-!
# Talks

A talk is over with a result, or it asks and goes on with each answer there may be.  What is noted
of the answers makes up a log, so a talk is followed for every sequence of answers, whoever gives
them.

* `Talk.Says`: with the notes of a log, a talk comes to a result;
* `Talk.says_bind_iff`: the log of a talk that goes on is the logs of its parts in turn;
* `Talk.says_bindOk_iff`: the same for talks that end at their first error;
* `Talk.says_known_bindOk_iff`, `Talk.says_read_bindOk_iff`: how a log begins, by the first step of
  its talk.
-/

set_option autoImplicit false

namespace StatusRegistry

/-- A result, or a question: what is noted of each answer, and how it goes on with it. -/
inductive Talk (Note α : Type) : Type 1 where
  | done (result : α)
  | ask {Answer : Type} (note : Answer → List Note) (next : Answer → Talk Note α)

namespace Talk

variable {Note Answer α β ε : Type} {log : List Note}

/-- One talk after another. -/
def bind (t : Talk Note α) (f : α → Talk Note β) : Talk Note β :=
  match t with
  | done a => f a
  | ask note next => ask note fun answer => (next answer).bind f

/-- With the answers that the log notes, the talk comes to the result. -/
inductive Says : Talk Note α → List Note → α → Prop where
  | done (a : α) : Says (.done a) [] a
  | ask {Answer : Type} {note : Answer → List Note} {next : Answer → Talk Note α} (answer : Answer)
      {log : List Note} {a : α} (h : Says (next answer) log a) :
      Says (.ask note next) (note answer ++ log) a

theorem says_done_iff {a b : α} : (done a).Says log b ↔ log = [] ∧ b = a := by
  constructor
  · intro h
    cases h
    exact ⟨rfl, rfl⟩
  · rintro ⟨rfl, rfl⟩
    exact .done b

theorem says_ask_iff {note : Answer → List Note} {next : Answer → Talk Note α} {b : α} :
    (ask note next).Says log b ↔
      ∃ answer rest, log = note answer ++ rest ∧ (next answer).Says rest b := by
  constructor
  · intro h
    cases h with
    | ask answer h => exact ⟨answer, _, rfl, h⟩
  · rintro ⟨answer, rest, rfl, h⟩
    exact .ask answer h

/-- **A talk that goes on says what both parts say.** -/
theorem says_bind_iff {t : Talk Note α} {f : α → Talk Note β} {b : β} :
    (t.bind f).Says log b ↔
      ∃ front a back, log = front ++ back ∧ t.Says front a ∧ (f a).Says back b := by
  induction t generalizing log with
  | done a =>
    constructor
    · intro h
      exact ⟨[], a, log, rfl, .done a, h⟩
    · rintro ⟨front, a', back, rfl, hfront, hback⟩
      obtain ⟨rfl, rfl⟩ := says_done_iff.mp hfront
      exact hback
  | ask note next ih =>
    constructor
    · intro h
      obtain ⟨answer, rest, rfl, hrest⟩ := says_ask_iff.mp h
      obtain ⟨front, a, back, rfl, hfront, hback⟩ := (ih answer).mp hrest
      exact ⟨note answer ++ front, a, back, (List.append_assoc _ _ _).symm, .ask answer hfront,
        hback⟩
    · rintro ⟨front, a, back, rfl, hfront, hback⟩
      obtain ⟨answer, rest, rfl, hrest⟩ := says_ask_iff.mp hfront
      rw [List.append_assoc]
      exact .ask answer ((ih answer).mpr ⟨rest, a, back, rfl, hrest, hback⟩)

/-! ## Talks that end at an error -/

/-- A talk goes on after a part that came to a value, and ends with the error of one that did
not. -/
def bindOk (t : Talk Note (Except ε α)) (f : α → Talk Note (Except ε β)) :
    Talk Note (Except ε β) :=
  t.bind fun
    | .error e => done (.error e)
    | .ok a => f a

variable {f : α → Talk Note (Except ε β)} {r : Except ε β}

theorem says_bindOk_iff {t : Talk Note (Except ε α)} :
    (t.bindOk f).Says log r ↔
      (∃ e, t.Says log (.error e) ∧ r = .error e) ∨
        ∃ a front back, log = front ++ back ∧ t.Says front (.ok a) ∧ (f a).Says back r := by
  rw [bindOk, says_bind_iff]
  constructor
  · rintro ⟨front, a, back, rfl, hfront, hback⟩
    cases a with
    | error e =>
      obtain ⟨rfl, rfl⟩ := says_done_iff.mp hback
      rw [List.append_nil]
      exact .inl ⟨e, hfront, rfl⟩
    | ok a => exact .inr ⟨a, front, back, rfl, hfront, hback⟩
  · rintro (⟨e, h, rfl⟩ | ⟨a, front, back, rfl, hfront, hback⟩)
    · exact ⟨log, .error e, [], (List.append_nil log).symm, h, .done _⟩
    · exact ⟨front, .ok a, back, rfl, hfront, hback⟩

/-- A value or an error that is known needs no question. -/
theorem says_known_bindOk_iff {x : Except ε α} :
    ((done x).bindOk f).Says log r ↔
      (∃ e, x = .error e ∧ log = [] ∧ r = .error e) ∨ ∃ a, x = .ok a ∧ (f a).Says log r := by
  cases x with
  | error e => simp [bindOk, bind, says_done_iff]
  | ok a => simp [bindOk, bind]

/-- One question, of whose answer something is read. -/
theorem says_read_iff {note : Answer → List Note} {read : Answer → α} {b : α} :
    (ask note fun answer => done (read answer)).Says log b ↔
      ∃ answer, log = note answer ∧ b = read answer := by
  rw [says_ask_iff]
  constructor
  · rintro ⟨answer, rest, rfl, hrest⟩
    obtain ⟨rfl, rfl⟩ := says_done_iff.mp hrest
    exact ⟨answer, List.append_nil _, rfl⟩
  · rintro ⟨answer, rfl, rfl⟩
    exact ⟨answer, [], (List.append_nil _).symm, .done _⟩

/-- One question, whose answer stands for a value or for an error. -/
theorem says_read_bindOk_iff {note : Answer → List Note} {read : Answer → Except ε α} :
    ((ask note fun answer => done (read answer)).bindOk f).Says log r ↔
      (∃ answer e, log = note answer ∧ read answer = .error e ∧ r = .error e) ∨
        ∃ answer a rest, log = note answer ++ rest ∧ read answer = .ok a ∧ (f a).Says rest r := by
  rw [says_bindOk_iff]
  constructor
  · rintro (⟨e, h, rfl⟩ | ⟨a, front, back, rfl, h, hback⟩)
    · obtain ⟨answer, rfl, hread⟩ := says_read_iff.mp h
      exact .inl ⟨answer, e, rfl, hread.symm, rfl⟩
    · obtain ⟨answer, rfl, hread⟩ := says_read_iff.mp h
      exact .inr ⟨answer, a, back, rfl, hread.symm, hback⟩
  · rintro (⟨answer, e, rfl, hread, rfl⟩ | ⟨answer, a, rest, rfl, hread, hrest⟩)
    · exact .inl ⟨e, says_read_iff.mpr ⟨answer, rfl, hread.symm⟩, rfl⟩
    · exact .inr ⟨a, note answer, rest, rfl, says_read_iff.mpr ⟨answer, rfl, hread.symm⟩, hrest⟩

end Talk

end StatusRegistry

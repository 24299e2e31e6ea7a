/-!
# Steps that may fail

How steps in turn come to a value or to an error, and what it means that a computation makes some
checks in order.

* `bind_eq_ok_iff`, `bind_eq_error_iff`: steps in turn;
* `FirstFailure`: the error of the first of some checks that fails;
* `Decides.step`, `Decides.guard`, `Decides.bind`: a computation that makes its checks in order,
  taken apart;
* `Decides.rest`: what is left of the checks where the first of them pass;
* `Decides.ok_iff`: it comes to a value iff no check fails.
-/

set_option autoImplicit false

namespace StatusRegistry

section Steps

variable {ε ε' α β : Type} {x : Except ε α}

@[simp] theorem ok_bind (a : α) (f : α → Except ε β) : (Except.ok a >>= f) = f a := rfl

@[simp] theorem error_bind (e : ε) (f : α → Except ε β) : (Except.error e >>= f) = .error e := rfl

/-- Steps in turn come to a value iff each of them does. -/
theorem bind_eq_ok_iff {f : α → Except ε β} {b : β} :
    (x >>= f) = .ok b ↔ ∃ a, x = .ok a ∧ f a = .ok b := by
  cases x with
  | error e => simp
  | ok a => simp

/-- Steps in turn come to an error iff one of them does and those in front of it do not. -/
theorem bind_eq_error_iff {f : α → Except ε β} {e : ε} :
    (x >>= f) = .error e ↔ x = .error e ∨ ∃ a, x = .ok a ∧ f a = .error e := by
  cases x with
  | error e' => simp
  | ok a => simp

/-- A condition that is refused does not hold where there is a value. -/
theorem guard_eq_ok {c : Prop} [Decidable c] {refused : Except ε α} {a : α} {e : ε}
    (h : (if c then refused else x) = .ok a) (hrefused : refused = .error e) :
    ¬ c ∧ x = .ok a := by
  by_cases hc : c
  · rw [if_pos hc, hrefused] at h
    cases h
  · rw [if_neg hc] at h
    exact ⟨hc, h⟩

/-- An error that is told in another way is still an error. -/
theorem mapError_eq_ok_iff {f : ε → ε'} {a : α} : x.mapError f = .ok a ↔ x = .ok a := by
  constructor
  · intro h
    cases x with
    | error e => cases h
    | ok b =>
      cases h
      rfl
  · rintro rfl
    rfl

theorem mapError_eq_error_iff {f : ε → ε'} {e' : ε'} :
    x.mapError f = .error e' ↔ ∃ e, x = .error e ∧ e' = f e := by
  constructor
  · intro h
    cases x with
    | error e =>
      cases h
      exact ⟨e, rfl, rfl⟩
    | ok a => cases h
  · rintro ⟨e, rfl, rfl⟩
    rfl

/-- A refusal unless a condition holds. -/
theorem ite_eq_error_iff {c : Prop} [Decidable c] {a : α} {e e₀ : ε} :
    (if c then Except.ok a else .error e₀) = .error e ↔ ¬ c ∧ e = e₀ := by
  split
  · simp [*]
  · simp [*, eq_comm]

end Steps

/-! ## Checks in order -/

section Checks

variable {ε ε' α β : Type}

/-- The error of the first check that fails.  A check is given by the errors that it fails with. -/
def FirstFailure : List (ε → Prop) → ε → Prop
  | [], _ => False
  | check :: rest, e => check e ∨ (∀ e', ¬ check e') ∧ FirstFailure rest e

/-- A computation fails with the error of the first check that fails. -/
def Decides (x : Except ε α) (checks : List (ε → Prop)) : Prop :=
  ∀ e, x = .error e ↔ FirstFailure checks e

theorem firstFailure_append {as bs : List (ε → Prop)} {e : ε} :
    FirstFailure (as ++ bs) e ↔
      FirstFailure as e ∨ (∀ check ∈ as, ∀ e', ¬ check e') ∧ FirstFailure bs e := by
  induction as with
  | nil => simp [FirstFailure]
  | cons check as ih =>
    simp only [List.cons_append, FirstFailure, ih, List.forall_mem_cons]
    grind

/-- Some check is the first to fail iff some check fails. -/
theorem exists_firstFailure_iff {checks : List (ε → Prop)} :
    (∃ e, FirstFailure checks e) ↔ ∃ check ∈ checks, ∃ e, check e := by
  induction checks with
  | nil => simp [FirstFailure]
  | cons check rest ih =>
    constructor
    · rintro ⟨e, he | ⟨-, he⟩⟩
      · exact ⟨check, List.mem_cons_self, e, he⟩
      · obtain ⟨c, hc, hfails⟩ := ih.mp ⟨e, he⟩
        exact ⟨c, List.mem_cons_of_mem check hc, hfails⟩
    · rintro ⟨c, hc, e, he⟩
      by_cases h : ∃ e', check e'
      · obtain ⟨e', he'⟩ := h
        exact ⟨e', .inl he'⟩
      · have hrest : c ∈ rest := (List.mem_cons.mp hc).resolve_left fun heq => h ⟨e, heq ▸ he⟩
        obtain ⟨e', he'⟩ := ih.mpr ⟨c, hrest, e, he⟩
        exact ⟨e', .inr ⟨not_exists.mp h, he'⟩⟩

theorem FirstFailure.exists {checks : List (ε → Prop)} {e : ε} (h : FirstFailure checks e) :
    ∃ check ∈ checks, check e := by
  induction checks with
  | nil => exact h.elim
  | cons check rest ih =>
    obtain he | ⟨-, hrest⟩ := h
    · exact ⟨check, List.mem_cons_self, he⟩
    · obtain ⟨c, hc, he⟩ := ih hrest
      exact ⟨c, List.mem_cons_of_mem check hc, he⟩

namespace Decides

variable {x : Except ε α} {f : α → Except ε β} {as bs checks : List (ε → Prop)}

theorem nil {a : α} (h : x = .ok a) : Decides x [] := by
  intro e
  simp [h, FirstFailure]

/-- If a check fails its error is reported, and if it does not the others are made. -/
theorem cons {check : ε → Prop} (hfails : ∀ e, check e → x = .error e)
    (hpasses : (∀ e, ¬ check e) → Decides x checks) : Decides x (check :: checks) := by
  intro e
  by_cases h : ∃ e', check e'
  · obtain ⟨e', he'⟩ := h
    rw [hfails e' he']
    constructor
    · intro heq
      cases heq
      exact .inl he'
    · rintro (he | ⟨hnone, -⟩)
      · rw [← hfails e' he', hfails e he]
      · exact absurd he' (hnone e')
  · have hnone : ∀ e', ¬ check e' := not_exists.mp h
    rw [hpasses hnone e]
    exact ⟨fun hrest => .inr ⟨hnone, hrest⟩, fun h => h.elim (absurd · (hnone e)) And.right⟩

/-- A check that cannot fail need not be made. -/
theorem skip {check : ε → Prop} (hcheck : ∀ e, ¬ check e) (h : Decides x checks) :
    Decides x (check :: checks) :=
  cons (fun e he => absurd he (hcheck e)) fun _ => h

/-- It comes to a value iff no check fails. -/
theorem ok_iff (h : Decides x checks) :
    (∃ a, x = .ok a) ↔ ∀ check ∈ checks, ∀ e, ¬ check e := by
  constructor
  · rintro ⟨a, ha⟩ check hcheck e he
    obtain ⟨e', he'⟩ := exists_firstFailure_iff.mpr ⟨check, hcheck, e, he⟩
    have herror := (h e').mpr he'
    rw [ha] at herror
    cases herror
  · intro hnone
    cases hx : x with
    | ok a => exact ⟨a, rfl⟩
    | error e =>
      obtain ⟨check, hcheck, e', he'⟩ := exists_firstFailure_iff.mp ⟨e, (h e).mp hx⟩
      exact absurd he' (hnone check hcheck e')

/-- The checks of one computation and, if all pass, those of the next. -/
theorem bind (hx : Decides x as) (hf : ∀ a, x = .ok a → Decides (f a) bs) :
    Decides (x >>= f) (as ++ bs) := by
  intro e
  rw [bind_eq_error_iff, firstFailure_append, hx e, ← hx.ok_iff]
  refine or_congr_right ⟨?_, ?_⟩
  · rintro ⟨a, ha, hfa⟩
    exact ⟨⟨a, ha⟩, (hf a ha e).mp hfa⟩
  · rintro ⟨⟨a, ha⟩, hbs⟩
    exact ⟨a, ha, (hf a ha e).mpr hbs⟩

/-- Where the first checks pass, the others decide. -/
theorem rest (h : Decides x (as ++ bs)) (has : ∀ check ∈ as, ∀ e, ¬ check e) : Decides x bs := by
  intro e
  rw [h e, firstFailure_append]
  constructor
  · rintro (hfirst | ⟨-, hrest⟩)
    · obtain ⟨check, hcheck, he⟩ := hfirst.exists
      exact absurd he (has check hcheck e)
    · exact hrest
  · exact fun hrest => .inr ⟨has, hrest⟩

/-- A step that may fail, behind which nothing is checked. -/
theorem lastStep {y : Except ε' α} {tell : ε' → ε} {check : ε → Prop}
    (hcheck : ∀ e, check e ↔ ∃ cause, y = .error cause ∧ e = tell cause) :
    Decides (y.mapError tell) [check] := by
  intro e
  rw [mapError_eq_error_iff, ← hcheck e]
  simp [FirstFailure]

/-- A step that may fail, in front of other checks. -/
theorem step {y : Except ε' α} {tell : ε' → ε} {check : ε → Prop}
    (hcheck : ∀ e, check e ↔ ∃ cause, y = .error cause ∧ e = tell cause)
    (hf : ∀ a, y = .ok a → Decides (f a) checks) :
    Decides (y.mapError tell >>= f) (check :: checks) := by
  exact (lastStep hcheck).bind fun a ha => hf a (mapError_eq_ok_iff.mp ha)

/-- A condition that is refused, in front of other checks. -/
theorem guard {c : Prop} [Decidable c] {refused : Except ε α} {e₀ : ε} {check : ε → Prop}
    (hcheck : ∀ e, check e ↔ c ∧ e = e₀) (hrefused : refused = .error e₀)
    (hx : ¬ c → Decides x checks) : Decides (if c then refused else x) (check :: checks) := by
  by_cases h : c
  · rw [if_pos h]
    refine cons (fun e he => ?_) fun hnone => absurd ((hcheck e₀).mpr ⟨h, rfl⟩) (hnone e₀)
    rw [((hcheck e).mp he).2, hrefused]
  · rw [if_neg h]
    exact cons (fun e he => absurd ((hcheck e).mp he).1 h) fun _ => hx h

end Decides

end Checks

end StatusRegistry

import Mathlib.Data.List.Forall2
import Mathlib.Data.Nat.Digits.Defs
import StatusRegistry.Text.Numeral

/-!
# Which texts are read as numbers

A numeral told without a reader: a nonempty list of digits of a base, and the number that they
write.  The reader accepts just the numerals, and finds just their numbers.

* `Digit`, `Numeral`: the digits of a base, and its numerals;
* `digitIn?_eq_some_iff`, `value?_eq_some_iff`: the reader of digits and the reader of numerals;
* `Numeral.unique`: a numeral writes one number;
* `exists_numeral_ten_iff`: the decimal numerals are the nonempty lists of ASCII digits.
-/

set_option autoImplicit false

namespace StatusRegistry.Text

variable {base : Nat} {cs : List Char} {c : Char} {d m n : Nat}

/-! ## Digits and numerals -/

/-- A character is the digit of a value below the base: a figure below ten, and from ten on a letter
of either case. -/
def Digit (base : Nat) (c : Char) (d : Nat) : Prop :=
  d < base ∧ (d < 10 ∧ c.toNat = '0'.toNat + d ∨
    10 ≤ d ∧ (c.toNat + 10 = 'a'.toNat + d ∨ c.toNat + 10 = 'A'.toNat + d))

/-- A nonempty list of digits of a base, the first of which counts most, and the number that they
write. -/
def Numeral (base : Nat) (cs : List Char) (n : Nat) : Prop :=
  ∃ digits : List Nat, List.Forall₂ (Digit base) cs digits ∧ digits ≠ [] ∧
    n = Nat.ofDigits base digits.reverse

/-! ## The reader -/

/-- **A digit is read just as what it is.** -/
theorem digitIn?_eq_some_iff (hbase : base ≤ 36) : digitIn? base c = some d ↔ Digit base c d := by
  have hle : ∀ a b : Char, a ≤ b ↔ a.toNat ≤ b.toNat := fun _ _ => Iff.rfl
  have hfigures : '0'.toNat = 48 ∧ '9'.toNat = 57 := by decide
  have hsmall : 'a'.toNat = 97 ∧ 'z'.toNat = 122 := by decide
  have hcapitals : 'A'.toNat = 65 ∧ 'Z'.toNat = 90 := by decide
  unfold digitIn? digitValue? Digit
  simp only [hle, hfigures, hsmall, hcapitals]
  split
  · rename_i found hfound
    have hvalue : found = d ∧ found < base ↔
        (if found < base then some found else none) = some d := by
      by_cases hlt : found < base <;> simp [hlt]
    rw [← hvalue]
    split at hfound
    · cases hfound
      omega
    · split at hfound
      · cases hfound
        omega
      · split at hfound
        · cases hfound
          omega
        · cases hfound
  · rename_i hnone
    simp only [reduceCtorEq, false_iff]
    split at hnone
    · cases hnone
    · split at hnone
      · cases hnone
      · split at hnone
        · cases hnone
        · omega

/-- Digits are read from the left, each of them into what was read in front of it. -/
theorem extend?_eq_some_iff (hbase : base ≤ 36) :
    extend? base m cs = some n ↔ ∃ digits : List Nat, List.Forall₂ (Digit base) cs digits ∧
      n = digits.foldl (fun found d => found * base + d) m := by
  induction cs generalizing m with
  | nil => simp [extend?, List.forall₂_nil_left_iff, eq_comm]
  | cons c cs ih =>
    unfold extend?
    split
    · rename_i d hd
      have hdigit := (digitIn?_eq_some_iff hbase).mp hd
      rw [ih]
      constructor
      · rintro ⟨digits, hdigits, rfl⟩
        exact ⟨d :: digits, .cons hdigit hdigits, rfl⟩
      · rintro ⟨_, hdigits, rfl⟩
        cases hdigits with
        | @cons _ other _ digits hother hdigits =>
          have hsame := hd.symm.trans ((digitIn?_eq_some_iff hbase).mpr hother)
          cases hsame
          exact ⟨digits, hdigits, rfl⟩
    · rename_i hnone
      simp only [reduceCtorEq, false_iff]
      rintro ⟨_, hdigits, rfl⟩
      cases hdigits with
      | cons hdigit _ => cases hnone.symm.trans ((digitIn?_eq_some_iff hbase).mpr hdigit)

/-- What digits write is found by reading them from the left. -/
theorem ofDigits_reverse (base : Nat) (digits : List Nat) :
    Nat.ofDigits base digits.reverse = digits.foldl (fun found d => found * base + d) 0 := by
  rw [Nat.ofDigits_eq_foldr, List.foldr_reverse]
  simp only [Nat.cast_id, Nat.mul_comm base, Nat.add_comm]

/-- **A text is read as a number iff it is a numeral that writes it.** -/
theorem value?_eq_some_iff (hbase : base ≤ 36) : value? base cs = some n ↔ Numeral base cs n := by
  unfold Numeral
  simp only [ofDigits_reverse]
  cases cs with
  | nil =>
    simp only [value?, reduceCtorEq, false_iff]
    rintro ⟨digits, hdigits, hne, -⟩
    cases hdigits
    exact hne rfl
  | cons c cs =>
    rw [value?, extend?_eq_some_iff hbase]
    constructor
    · rintro ⟨digits, hdigits, hvalue⟩
      refine ⟨digits, hdigits, ?_, hvalue⟩
      rintro rfl
      cases hdigits
    · rintro ⟨digits, hdigits, -, hvalue⟩
      exact ⟨digits, hdigits, hvalue⟩

theorem Numeral.unique (hbase : base ≤ 36) (hm : Numeral base cs m) (hn : Numeral base cs n) :
    m = n :=
  Option.some.inj
    (((value?_eq_some_iff hbase).mpr hm).symm.trans ((value?_eq_some_iff hbase).mpr hn))

/-! ## Decimal numerals -/

theorem exists_digit_ten_iff : (∃ d, Digit 10 c d) ↔ isDigit c = true := by
  have hle : ∀ a b : Char, a ≤ b ↔ a.toNat ≤ b.toNat := fun _ _ => Iff.rfl
  have hfigures : '0'.toNat = 48 ∧ '9'.toNat = 57 := by decide
  simp only [isDigit, Bool.and_eq_true, decide_eq_true_eq, hle, Digit, hfigures]
  constructor
  · rintro ⟨d, hd⟩
    omega
  · rintro ⟨hfirst, hlast⟩
    exact ⟨c.toNat - 48, by omega⟩

/-- Digits can be found for a list iff they can for each of its characters. -/
theorem exists_digits_iff :
    (∃ digits, List.Forall₂ (Digit base) cs digits) ↔ ∀ c ∈ cs, ∃ d, Digit base c d := by
  induction cs with
  | nil => simp [List.forall₂_nil_left_iff]
  | cons c cs ih =>
    rw [List.forall_mem_cons, ← ih]
    constructor
    · rintro ⟨_, hdigits⟩
      cases hdigits with
      | cons hd hrest => exact ⟨⟨_, hd⟩, _, hrest⟩
    · rintro ⟨⟨d, hd⟩, digits, hrest⟩
      exact ⟨d :: digits, .cons hd hrest⟩

/-- **The decimal numerals are the nonempty lists of ASCII digits.** -/
theorem exists_numeral_ten_iff :
    (∃ n, Numeral 10 cs n) ↔ cs ≠ [] ∧ ∀ c ∈ cs, isDigit c = true := by
  simp only [← exists_digit_ten_iff, ← exists_digits_iff]
  constructor
  · rintro ⟨n, digits, hdigits, hne, -⟩
    refine ⟨?_, digits, hdigits⟩
    rintro rfl
    exact hne (List.forall₂_nil_left_iff.mp hdigits)
  · rintro ⟨hne, digits, hdigits⟩
    refine ⟨_, digits, hdigits, ?_, rfl⟩
    rintro rfl
    exact hne (List.forall₂_nil_right_iff.mp hdigits)

end StatusRegistry.Text

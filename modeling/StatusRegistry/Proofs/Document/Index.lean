import StatusRegistry.Document.Status
import StatusRegistry.Proofs.Text.Numeral
import StatusRegistry.Proofs.Text.Value
import StatusRegistry.Service.Assignment

/-!
# The index of a claim

An index is read from a claim just if its text is a decimal numeral of a number that fits a machine
word, and it is that number; every other text is handed back in the error.  The text that is made
for an entry is such a numeral.

* `StatusClaim.index_eq_ok_iff`, `StatusClaim.index_eq_error_iff`: when an index is read, and when
  not;
* `Service.index_claim`: the index of the claim of an entry;
* `indices_exact`: all of them.
-/

set_option autoImplicit false

namespace StatusRegistry

open Text

namespace StatusClaim

variable {claim : StatusClaim} {n : Nat}

/-- That all characters are figures need not be asked: the reader of numerals takes no others. -/
theorem figures_value? (cs : List Char) :
    (if cs.all isDigit then value? 10 cs else none) = value? 10 cs := by
  by_cases hall : cs.all isDigit = true
  · rw [if_pos hall]
  · rw [if_neg hall]
    cases hvalue : value? 10 cs with
    | none => rfl
    | some n =>
      have hnumeral := (value?_eq_some_iff (by decide)).mp hvalue
      exact absurd (List.all_eq_true.mpr (exists_numeral_ten_iff.mp ⟨n, hnumeral⟩).2) hall

/-- A numeral of a number that fits a machine word is read as this number. -/
theorem index_of_numeral (h : Numeral 10 claim.indexText.toList n) (hn : n < 2 ^ 64) :
    claim.index = .ok (.ofNat n) := by
  have hvalue := (figures_value? _).trans ((value?_eq_some_iff (by decide)).mpr h)
  unfold index
  simp only [hvalue]
  exact if_pos hn

/-- Every other text is handed back. -/
theorem index_of_not_exists (h : ¬ ∃ n < 2 ^ 64, Numeral 10 claim.indexText.toList n) :
    claim.index = .error (.invalidIndex claim.indexText) := by
  unfold index
  simp only [figures_value?]
  split
  · rename_i n hvalue
    exact if_neg fun hn => h ⟨n, hn, (value?_eq_some_iff (by decide)).mp hvalue⟩
  · rfl

/-- **An index is read iff its text is a decimal numeral of it.** -/
theorem index_eq_ok_iff {i : UInt64} :
    claim.index = .ok i ↔ Numeral 10 claim.indexText.toList i.toNat := by
  constructor
  · intro h
    by_cases hsome : ∃ n < 2 ^ 64, Numeral 10 claim.indexText.toList n
    · obtain ⟨n, hn, hnumeral⟩ := hsome
      cases (index_of_numeral hnumeral hn).symm.trans h
      rwa [UInt64.toNat_ofNat_of_lt' hn]
    · cases (index_of_not_exists hsome).symm.trans h
  · intro h
    rw [index_of_numeral h i.toNat_lt, UInt64.ofNat_toNat]

/-- **An index is refused iff its text is no decimal numeral of a number that fits a machine word**,
and then the text is handed back. -/
theorem index_eq_error_iff {e : DocumentError} :
    claim.index = .error e ↔ e = .invalidIndex claim.indexText ∧
      ¬ ∃ n < 2 ^ 64, Numeral 10 claim.indexText.toList n := by
  by_cases hsome : ∃ n < 2 ^ 64, Numeral 10 claim.indexText.toList n
  · obtain ⟨n, hn, hnumeral⟩ := hsome
    rw [index_of_numeral hnumeral hn]
    constructor
    · nofun
    · rintro ⟨-, hnone⟩
      exact absurd ⟨n, hn, hnumeral⟩ hnone
  · rw [index_of_not_exists hsome, Except.error.injEq, eq_comm, and_iff_left hsome]

end StatusClaim

/-- The index of the claim of an entry is read back. -/
theorem Service.index_claim (c : Config) (e : StatusEntry) : (claim c e).index = .ok e.index := by
  have htext : (claim c e).indexText.toList = decimal e.index.toNat := toList_decimalText _
  rw [StatusClaim.index_eq_ok_iff, htext]
  exact (value?_eq_some_iff (by decide)).mp (value?_decimal _)

/-- **Exactly the decimal numerals below 2^64 are read as an index, and an index that is written is
read back.**  Leading zeros are allowed; any other text is refused and handed back. -/
theorem indices_exact :
    (∀ claim : StatusClaim,
      (∀ i : UInt64, claim.index = .ok i ↔ Numeral 10 claim.indexText.toList i.toNat) ∧
        ∀ e, claim.index = .error e ↔ e = .invalidIndex claim.indexText ∧
          ¬ ∃ n < 2 ^ 64, Numeral 10 claim.indexText.toList n) ∧
      ∀ (c : Config) (e : StatusEntry), (Service.claim c e).index = .ok e.index :=
  ⟨fun _ => ⟨fun _ => StatusClaim.index_eq_ok_iff, fun _ => StatusClaim.index_eq_error_iff⟩,
    Service.index_claim⟩

/-- Zeros in front do not matter, a sign does. -/
example : (⟨none, "", .revocation, "007", none, ""⟩ : StatusClaim).index = .ok 7 ∧
    (⟨none, "", .revocation, "+7", none, ""⟩ : StatusClaim).index =
      .error (.invalidIndex "+7") := by
  decide

end StatusRegistry

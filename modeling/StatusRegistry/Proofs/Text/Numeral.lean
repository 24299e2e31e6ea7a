import Mathlib.Algebra.GroupWithZero.Nat
import StatusRegistry.Text.Numeral

/-!
# Numerals read back

A number is read back from its digits, whichever way its letters are written and however many zeros
stand in front.

* `value?_digits`: the round trip for every base and every way to write a digit;
* `value?_zeros`, `length_filled`: numerals with zeros in front;
* `value?_decimal`, `value?_padZeros`: decimal numerals;
* `value?_hex`, `value?_hexUpper`: hexadecimal numerals, in small and in capital letters.
-/

set_option autoImplicit false

namespace StatusRegistry.Text

/-! ## Any base -/

theorem digitsRev_ne_nil (base : Nat) (hb : 2 ≤ base) (n : Nat) : digitsRev base hb n ≠ [] := by
  rw [digitsRev]
  split <;> simp

theorem extend?_digits {base : Nat} (hb : 2 ≤ base) (write : Char → Char)
    (hwrite : ∀ d, d < base → digitIn? base (write (digitChar d)) = some d) (n : Nat) :
    extend? base 0 ((digitsRev base hb n).reverse.map write) = some n := by
  rw [digitsRev]
  split
  · rename_i h
    simp [extend?, hwrite n h]
  · rename_i h
    have hrest := extend?_digits hb write hwrite (n / base)
    have hlast := hwrite (n % base) (Nat.mod_lt n (by omega))
    have hsplit : n / base * base + n % base = n := Nat.div_add_mod' n base
    simp only [List.reverse_cons, List.map_append, List.map_cons, List.map_nil, extend?_append,
      hrest, Option.bind_some, extend?, hlast, hsplit]
termination_by n
decreasing_by exact Nat.div_lt_self (by omega) (by omega)

theorem value?_eq_extend? {cs : List Char} (h : cs ≠ []) (base : Nat) :
    value? base cs = extend? base 0 cs := by
  cases cs with
  | nil => exact absurd rfl h
  | cons c cs => rfl

/-- **A number is read back from its digits**, if each digit is, in the way it is written. -/
theorem value?_digits {base : Nat} (hb : 2 ≤ base) (write : Char → Char)
    (hwrite : ∀ d, d < base → digitIn? base (write (digitChar d)) = some d) (n : Nat) :
    value? base ((digitsRev base hb n).reverse.map write) = some n := by
  rw [value?_eq_extend?, extend?_digits hb write hwrite n]
  simp [digitsRev_ne_nil]

/-- Each character of a numeral is one of the digits of its base. -/
theorem exists_digit_of_mem {base : Nat} (hb : 2 ≤ base) (n : Nat) :
    ∀ c ∈ digitsRev base hb n, ∃ d < base, c = digitChar d := by
  rw [digitsRev]
  split
  · rename_i h
    intro c hc
    exact ⟨n, h, List.mem_singleton.mp hc⟩
  · intro c hc
    rcases List.mem_cons.mp hc with rfl | hc
    · exact ⟨n % base, Nat.mod_lt n (by omega), rfl⟩
    · exact exists_digit_of_mem hb (n / base) c hc
termination_by n
decreasing_by exact Nat.div_lt_self (by omega) (by omega)

theorem length_digitsRev_le {base n width : Nat} (hb : 2 ≤ base) (h : n < base ^ (width + 1)) :
    (digitsRev base hb n).length ≤ width + 1 := by
  induction width generalizing n with
  | zero =>
    rw [digitsRev, dif_pos (by rwa [Nat.zero_add, Nat.pow_one] at h)]
    exact Nat.le_refl 1
  | succ width ih =>
    rw [digitsRev]
    split
    · exact Nat.le_add_left 1 _
    · have hdiv : n / base < base ^ (width + 1) := by
        apply Nat.div_lt_of_lt_mul
        rw [Nat.pow_succ, Nat.mul_comm] at h
        exact h
      rw [List.length_cons]
      have := ih hdiv
      omega

/-! ## Zeros in front -/

theorem extend?_zeros {base : Nat} (hb : 0 < base) (count : Nat) :
    extend? base 0 (List.replicate count '0') = some 0 := by
  have hzero : digitIn? base '0' = some 0 := if_pos hb
  induction count with
  | zero => rfl
  | succ count ih =>
    simp only [List.replicate_succ, extend?, hzero, Nat.zero_mul]
    exact ih

/-- Zeros in front of a numeral say nothing. -/
theorem value?_zeros {base : Nat} (hb : 0 < base) {cs : List Char} (h : cs ≠ []) (width : Nat) :
    value? base (padZeros width cs) = value? base cs := by
  rw [value?_eq_extend? (by simp [padZeros, h]), value?_eq_extend? h, padZeros, extend?_append,
    extend?_zeros hb]
  rfl

/-- A numeral that is not too long is filled up to the width exactly. -/
theorem length_filled {width : Nat} {cs : List Char} (h : cs.length ≤ width) :
    (padZeros width cs).length = width := by
  simp only [padZeros, List.length_append, List.length_replicate]
  omega

theorem mem_padZeros {width : Nat} {cs : List Char} {c : Char} (h : c ∈ padZeros width cs) :
    c = '0' ∨ c ∈ cs :=
  (List.mem_append.mp h).imp_left fun hc => (List.mem_replicate.mp hc).2

/-! ## Decimal numerals -/

theorem digitIn?_ten {d : Nat} (h : d < 10) : digitIn? 10 (digitChar d) = some d := by
  have : ∀ k : Fin 10, digitIn? 10 (digitChar k.val) = some k.val := by decide
  exact this ⟨d, h⟩

theorem isDigit_digitChar {d : Nat} (h : d < 10) : isDigit (digitChar d) = true := by
  have : ∀ k : Fin 10, isDigit (digitChar k.val) = true := by decide
  exact this ⟨d, h⟩

theorem decimal_ne_nil (n : Nat) : decimal n ≠ [] := by
  simp [decimal, digitsRev_ne_nil]

theorem toList_decimalText (n : Nat) : (decimalText n).toList = decimal n :=
  String.toList_ofList

/-- A decimal numeral has no other characters than digits. -/
theorem isDigit_of_mem_decimal {n : Nat} {c : Char} (h : c ∈ decimal n) : isDigit c = true := by
  obtain ⟨d, hd, rfl⟩ := exists_digit_of_mem (by decide) n c (List.mem_reverse.mp h)
  exact isDigit_digitChar hd

@[simp] theorem value?_decimal (n : Nat) : value? 10 (decimal n) = some n := by
  have h := value?_digits (by decide) id (fun d hd => digitIn?_ten hd) n
  rwa [List.map_id] at h

theorem isDigit_of_mem_padZeros {width : Nat} {cs : List Char} (hcs : ∀ c ∈ cs, isDigit c = true) :
    ∀ c ∈ padZeros width cs, isDigit c = true := by
  intro c hc
  rcases mem_padZeros hc with rfl | hc
  · decide
  · exact hcs c hc

@[simp] theorem value?_padZeros (width n : Nat) :
    value? 10 (padZeros width (decimal n)) = some n := by
  rw [value?_zeros (by decide) (decimal_ne_nil n), value?_decimal]

/-- A number that fits a width fills it exactly. -/
theorem length_padZeros {n width : Nat} (h : n < 10 ^ (width + 1)) :
    (padZeros (width + 1) (decimal n)).length = width + 1 :=
  length_filled (by simpa [decimal] using length_digitsRev_le (by decide) h)

/-! ## Hexadecimal numerals -/

theorem digitIn?_upper {d : Nat} (h : d < 16) :
    digitIn? 16 (upperAscii (digitChar d)) = some d := by
  have : ∀ k : Fin 16, digitIn? 16 (upperAscii (digitChar k.val)) = some k.val := by decide
  exact this ⟨d, h⟩

@[simp] theorem value?_hexUpper (n : Nat) : value? 16 ((hex n).map upperAscii) = some n :=
  value?_digits (by decide) upperAscii (fun d hd => digitIn?_upper hd) n

theorem digitIn?_sixteen {d : Nat} (h : d < 16) : digitIn? 16 (digitChar d) = some d := by
  have : ∀ k : Fin 16, digitIn? 16 (digitChar k.val) = some k.val := by decide
  exact this ⟨d, h⟩

theorem hex_ne_nil (n : Nat) : hex n ≠ [] := by
  simp [hex, digitsRev_ne_nil]

@[simp] theorem value?_hex (n : Nat) : value? 16 (hex n) = some n := by
  have h := value?_digits (by decide) id (fun d hd => digitIn?_sixteen hd) n
  rwa [List.map_id] at h

end StatusRegistry.Text

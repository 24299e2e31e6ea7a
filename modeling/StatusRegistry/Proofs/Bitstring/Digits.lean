import Mathlib.Tactic.Ring

/-!
# Digits of a number

A number holds at each weight `u` the digit `n / u % c` of a base `c`.  Putting another digit in its
place changes nothing above and nothing below, whatever bases the rest is read in.

* `withDigit_self`, `withDigit_above`, `withDigit_below`: what is read after a digit was put;
* `withDigit_withDigit`: putting a digit in two parts, the high part first;
* `digit_part`, `withDigit_part`: digits of a part of a number are digits of the number;
* `eq_of_digits`: a number below a power of the base is nothing but its digits.
-/

set_option autoImplicit false

namespace StatusRegistry.Bitstring

variable {u c code n : Nat}

/-- The number with a code in place of its digit of weight `u` in base `c`. -/
def withDigit (u c code n : Nat) : Nat := n - n / u % c * u + code * u

/-- The part of a number below a weight lies under its digit of that weight. -/
theorem digit_mul_le (u c n : Nat) : n / u % c * u ≤ n :=
  Nat.le_trans (Nat.mul_le_mul_right u (Nat.mod_le _ _)) (Nat.div_mul_le_self n u)

/-- What stands above the digit, the code, and what stands below. -/
theorem withDigit_eq (u c code n : Nat) :
    withDigit u c code n = u * c * (n / (u * c)) + (code * u + n % u) := by
  have hn := Nat.div_add_mod n u
  have hhigh := Nat.div_add_mod (n / u) c
  rw [Nat.div_div_eq_div_mul] at hhigh
  have hsplit : u * (n / u) = u * c * (n / (u * c)) + n / u % c * u := by
    conv => lhs; rw [← hhigh]
    ring
  unfold withDigit
  omega

/-- A code of the base stays below the next weight, whatever stands below it. -/
theorem digit_lt (hu : 0 < u) (hcode : code < c) (n : Nat) : code * u + n % u < u * c := by
  have hlow := Nat.mod_lt n hu
  calc code * u + n % u < code * u + u := Nat.add_lt_add_left hlow _
    _ = (code + 1) * u := (Nat.succ_mul code u).symm
    _ ≤ c * u := Nat.mul_le_mul_right u hcode
    _ = u * c := Nat.mul_comm c u

theorem withDigit_div (hu : 0 < u) (hcode : code < c) :
    withDigit u c code n / (u * c) = n / (u * c) := by
  have hnew := digit_lt hu hcode n
  rw [withDigit_eq, Nat.mul_add_div (Nat.zero_lt_of_lt hnew), Nat.div_eq_of_lt hnew, Nat.add_zero]

theorem withDigit_mod : withDigit u c code n % u = n % u := by
  rw [withDigit_eq, ← Nat.add_assoc, Nat.mul_assoc, Nat.mul_comm code, ← Nat.mul_add,
    Nat.mul_add_mod, Nat.mod_mod]

/-- The digit that was put is read back. -/
theorem withDigit_self (hu : 0 < u) (hcode : code < c) : withDigit u c code n / u % c = code := by
  have hform : withDigit u c code n = u * (c * (n / (u * c)) + code) + n % u := by
    rw [withDigit_eq]
    ring
  rw [hform, Nat.mul_add_div hu, Nat.div_eq_of_lt (Nat.mod_lt n hu), Nat.add_zero, Nat.mul_add_mod,
    Nat.mod_eq_of_lt hcode]

/-- What stands above a digit stays as it is. -/
theorem withDigit_above (hu : 0 < u) (hcode : code < c) {v : Nat} (hv : u * c ∣ v) :
    withDigit u c code n / v = n / v := by
  obtain ⟨k, rfl⟩ := hv
  rw [← Nat.div_div_eq_div_mul _ (u * c), ← Nat.div_div_eq_div_mul _ (u * c),
    withDigit_div hu hcode]

/-- What stands below a digit stays as it is. -/
theorem withDigit_below {v d : Nat} (hv : v * d ∣ u) :
    withDigit u c code n / v % d = n / v % d := by
  have hlow : ∀ m, m / v % d = m % u % (v * d) / v := fun m => by
    rw [Nat.mod_mod_of_dvd m hv, Nat.mod_mul_right_div_self]
  rw [hlow, hlow, withDigit_mod]

/-- A digit of a product of bases is put in two parts, the high one first. -/
theorem withDigit_withDigit {d high low : Nat} (hu : 0 < u) (hd : 0 < d) :
    withDigit u d low (withDigit (u * d) c high n) = withDigit u (d * c) (high * d + low) n := by
  have habove : withDigit (u * d) c high n / (u * d) = c * (n / (u * d * c)) + high := by
    have hmod : n % (u * d) < u * d := Nat.mod_lt n (Nat.mul_pos hu hd)
    have hform : withDigit (u * d) c high n =
        u * d * (c * (n / (u * d * c)) + high) + n % (u * d) := by
      rw [withDigit_eq]
      ring
    rw [hform, Nat.mul_add_div (Nat.mul_pos hu hd), Nat.div_eq_of_lt hmod, Nat.add_zero]
  have hbelow : withDigit (u * d) c high n % u = n % u := by
    have hdvd : u ∣ u * d := Nat.dvd_mul_right u d
    rw [← Nat.mod_mod_of_dvd _ hdvd, withDigit_mod, Nat.mod_mod_of_dvd _ hdvd]
  rw [withDigit_eq, habove, hbelow, withDigit_eq, Nat.mul_assoc u d c]
  ring

/-- The digit of a part of a number is a digit of the number. -/
theorem digit_part {m k low : Nat} (hm : u * c ∣ m) (hlow : low < k) (high n : Nat) :
    ((high * m + n) * k + low) / (u * k) % c = n / u % c := by
  obtain ⟨q, rfl⟩ := hm
  have hk : 0 < k := Nat.zero_lt_of_lt hlow
  have hmod : (high * (u * c * q) + n) % (u * c) = n % (u * c) := by
    rw [show high * (u * c * q) = u * c * (q * high) by ring, Nat.mul_add_mod]
  rw [Nat.mul_comm u k, ← Nat.div_div_eq_div_mul, Nat.mul_comm _ k, Nat.mul_add_div hk,
    Nat.div_eq_of_lt hlow, Nat.add_zero, ← Nat.mod_mul_right_div_self, hmod,
    Nat.mod_mul_right_div_self]

/-- To put a digit in a part of a number is to put it in the number. -/
theorem withDigit_part {m k low : Nat} (hm : u * c ∣ m) (hlow : low < k) (high code n : Nat) :
    (high * m + withDigit u c code n) * k + low =
      withDigit (u * k) c code ((high * m + n) * k + low) := by
  have hle := Nat.mul_le_mul_right k (digit_mul_le u c n)
  unfold withDigit
  rw [digit_part hm hlow]
  generalize n / u % c = d at *
  rw [← Nat.mul_assoc d, ← Nat.mul_assoc code, Nat.add_mul, Nat.add_mul, Nat.add_mul, Nat.sub_mul]
  omega

/-- Numbers with the same digits are the same, below a power of the base. -/
theorem eq_of_digits {a b : Nat} (ha : a < c ^ n) (hb : b < c ^ n)
    (h : ∀ k < n, a / c ^ k % c = b / c ^ k % c) : a = b := by
  induction n generalizing a b with
  | zero =>
    rw [Nat.pow_zero] at ha hb
    omega
  | succ n ih =>
    have hlow : a % c = b % c := by
      have := h 0 (Nat.succ_pos n)
      rwa [Nat.pow_zero, Nat.div_one, Nat.div_one] at this
    rw [Nat.pow_succ] at ha hb
    have hhigh : a / c = b / c := by
      refine ih (Nat.div_lt_of_lt_mul (Nat.mul_comm .. ▸ ha))
        (Nat.div_lt_of_lt_mul (Nat.mul_comm .. ▸ hb)) fun k hk => ?_
      rw [Nat.div_div_eq_div_mul, Nat.div_div_eq_div_mul, ← Nat.pow_succ']
      exact h (k + 1) (Nat.succ_lt_succ hk)
    rw [← Nat.div_add_mod a c, hhigh, hlow, Nat.div_add_mod]

end StatusRegistry.Bitstring

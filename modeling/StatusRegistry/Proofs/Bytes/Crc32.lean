import Mathlib.Algebra.CharP.Two
import Mathlib.Algebra.Field.ZMod
import Mathlib.Algebra.Polynomial.Div
import Mathlib.Tactic.LinearCombination
import StatusRegistry.Bytes.Crc32

/-!
# What a checksum is

The cyclic redundancy check as a division: the bits of a message are the coefficients of a
polynomial over the integers modulo two, and the checksum is what a fixed polynomial of degree 32
leaves of it.  The first 32 bits and the checksum are inverted, and each byte is sent from its low
end on.

* `generator`, `message`, `IsChecksum`: the check, without a register or a table;
* `shift_divide`, `dvd_step`: one bit and one byte of the register are steps of the division;
* `dvd_foldl`: so are all bytes, by induction on the message;
* `isChecksum_iff`: the checksum that is computed is the only one.
-/

set_option autoImplicit false

namespace StatusRegistry.Crc32

open Polynomial

/-- The polynomial by which messages are divided. -/
noncomputable def generator : (ZMod 2)[X] :=
  X ^ 32 + X ^ 26 + X ^ 23 + X ^ 22 + X ^ 16 + X ^ 12 + X ^ 11 + X ^ 10 + X ^ 8 + X ^ 7 + X ^ 5 +
    X ^ 4 + X ^ 2 + X + 1

/-- The low bits of a number as coefficients, of which the lowest bit is the leading one. -/
noncomputable def reflected (count n : Nat) : (ZMod 2)[X] :=
  ∑ i ∈ Finset.range count, if n.testBit i then X ^ (count - 1 - i) else 0

/-- Bytes as a polynomial: their bits in order, the lowest bit of each byte first. -/
noncomputable def message (bytes : List UInt8) : (ZMod 2)[X] :=
  bytes.foldl (fun p b => X ^ 8 * p + reflected 8 b.toNat) 0

/-- A checksum of some content: inverted, it is what is left of the content with its first 32 bits
inverted and 32 zero bits behind it. -/
def IsChecksum (content : ByteArray) (n : Nat) : Prop :=
  n < 2 ^ 32 ∧ reflected 32 n + reflected 32 0xFFFFFFFF =
    (X ^ 32 * message (Bytes.toBytes content) +
      X ^ (8 * content.size) * reflected 32 0xFFFFFFFF) %ₘ generator

variable {count m n : Nat}

/-! ## Bits as coefficients -/

theorem reflected_xor (count m n : Nat) :
    reflected count (m ^^^ n) = reflected count m + reflected count n := by
  simp only [reflected, ← Finset.sum_add_distrib, Nat.testBit_xor]
  refine Finset.sum_congr rfl fun i _ => ?_
  cases m.testBit i <;> cases n.testBit i <;> simp [CharTwo.add_self_eq_zero]

/-- The leading bits of a number. -/
theorem reflected_add (front back n : Nat) :
    reflected (front + back) n =
      X ^ back * reflected front n + reflected back (n / 2 ^ front) := by
  simp only [reflected, Finset.sum_range_add, Finset.mul_sum, mul_ite, mul_zero, ← pow_add]
  congr 1
  · refine Finset.sum_congr rfl fun i hi => ?_
    have hlt := Finset.mem_range.mp hi
    rw [show front + back - 1 - i = back + (front - 1 - i) by omega]
  · refine Finset.sum_congr rfl fun i hi => ?_
    rw [Nat.testBit_div_two_pow, show front + back - 1 - (front + i) = back - 1 - i by omega,
      Nat.add_comm front i]

theorem reflected_of_lt (hn : n < 2 ^ count) (more : Nat) :
    reflected (count + more) n = X ^ more * reflected count n := by
  rw [reflected_add, Nat.div_eq_of_lt hn]
  simp [reflected]

/-- What stands behind the leading bits of a register when these are shifted out. -/
theorem shift_reflected {k : Nat} (hk : k ≤ 32) (hn : n < 2 ^ 32) :
    X ^ k * reflected 32 n = X ^ 32 * reflected k n + reflected 32 (n / 2 ^ k) := by
  obtain ⟨rest, hrest⟩ : ∃ rest, 32 = k + rest := ⟨32 - k, by omega⟩
  have hbehind : n / 2 ^ k < 2 ^ rest := by
    rw [hrest, Nat.pow_add] at hn
    exact Nat.div_lt_of_lt_mul hn
  have hfront : reflected 32 n = X ^ rest * reflected k n + reflected rest (n / 2 ^ k) := by
    rw [hrest, reflected_add]
  have hback : reflected 32 (n / 2 ^ k) = X ^ k * reflected rest (n / 2 ^ k) := by
    rw [hrest, Nat.add_comm k rest, reflected_of_lt hbehind]
  rw [hfront, hback, hrest]
  ring

/-! ## Shifting bits out -/

/-- The constant of the register is the generator without its leading term. -/
theorem generator_eq : generator = X ^ 32 + reflected 32 0xEDB88320 := by
  have hbits : ∀ i < 32, Nat.testBit 0xEDB88320 i =
      ([5, 8, 9, 15, 19, 20, 21, 23, 24, 26, 27, 29, 30, 31] : List Nat).contains i := by
    decide
  have hsum : reflected 32 0xEDB88320 = ∑ i ∈ Finset.range 32,
      if ([5, 8, 9, 15, 19, 20, 21, 23, 24, 26, 27, 29, 30, 31] : List Nat).contains i then
        X ^ (31 - i) else 0 :=
    Finset.sum_congr rfl fun i hi => by rw [hbits i (Finset.mem_range.mp hi)]
  rw [hsum, generator]
  simp [Finset.sum_range_succ]
  ring

theorem shift_divide (r : UInt32) :
    X * reflected 32 r.toNat =
      reflected 1 r.toNat * generator + reflected 32 (divide r).toNat := by
  have hshift := shift_reflected (k := 1) (by decide) r.toNat_lt
  rw [pow_one, pow_one] at hshift
  have hhalf : (r >>> 1).toNat = r.toNat / 2 := by
    rw [UInt32.toNat_shiftRight, Nat.shiftRight_eq_div_pow]
    rfl
  have hlow : (r &&& 1 = 1) ↔ r.toNat.testBit 0 = true := by
    rw [← UInt32.toNat_inj, UInt32.toNat_and, Nat.testBit_zero]
    simp [Nat.and_one_is_mod]
  have hbit : reflected 1 r.toNat = if r.toNat.testBit 0 then 1 else 0 := by
    rw [reflected, Finset.sum_range_one]
    rfl
  have hpoly : (0xEDB88320 : UInt32).toNat = 0xEDB88320 := rfl
  rw [hshift, divide, hbit]
  by_cases hr : r &&& 1 = 1
  · rw [if_pos hr, if_pos (hlow.mp hr), UInt32.toNat_xor, reflected_xor, hhalf, generator_eq, hpoly]
    linear_combination (-reflected 32 0xEDB88320) * (CharTwo.two_eq_zero (R := (ZMod 2)[X]))
  · rw [if_neg hr, if_neg (fun h => hr (hlow.mpr h)), hhalf]
    ring

/-! ## The register -/

/-- Shifting out one more bit keeps the remainder. -/
theorem dvd_divide {p : (ZMod 2)[X]} {k : Nat} {r : UInt32}
    (h : generator ∣ X ^ k * p - reflected 32 r.toNat) :
    generator ∣ X ^ (k + 1) * p - reflected 32 (divide r).toNat := by
  have hstep : X ^ (k + 1) * p - reflected 32 (divide r).toNat =
      X * (X ^ k * p - reflected 32 r.toNat) + generator * reflected 1 r.toNat := by
    linear_combination shift_divide r
  rw [hstep]
  exact dvd_add (dvd_mul_of_dvd_right h X) (dvd_mul_right generator _)

theorem dvd_remainder {b : Nat} (hb : b < 2 ^ 32) :
    generator ∣ X ^ 8 * reflected 32 b - reflected 32 (remainder b).toNat := by
  have hstart : generator ∣ X ^ 0 * reflected 32 b - reflected 32 (UInt32.ofNat b).toNat := by
    rw [UInt32.toNat_ofNat_of_lt' hb, pow_zero, one_mul, sub_self]
    exact dvd_zero generator
  exact dvd_divide (dvd_divide (dvd_divide (dvd_divide
    (dvd_divide (dvd_divide (dvd_divide (dvd_divide hstart)))))))

theorem reflected_byte (b : UInt8) : reflected 32 b.toNat = X ^ 24 * reflected 8 b.toNat :=
  reflected_of_lt (show b.toNat < 2 ^ 8 from b.toNat_lt) 24

theorem reflected_mod (count n : Nat) : reflected count (n % 2 ^ count) = reflected count n := by
  unfold reflected
  refine Finset.sum_congr rfl fun i hi => ?_
  rw [Nat.testBit_mod_two_pow, decide_eq_true (Finset.mem_range.mp hi), Bool.true_and]

theorem step_eq (r : UInt32) (b : UInt8) :
    step r b = remainder ((r ^^^ b.toUInt32).toNat % 256) ^^^ (r >>> 8) := by
  have hlow : ((r ^^^ b.toUInt32) &&& 0xff).toNat = (r ^^^ b.toUInt32).toNat % 256 := by
    rw [UInt32.toNat_and]
    exact Nat.and_two_pow_sub_one_eq_mod _ 8
  have hlt : (r ^^^ b.toUInt32).toNat % 256 < table.size := by
    rw [table, Array.size_ofFn]
    exact Nat.mod_lt _ (by decide)
  unfold step
  simp only [hlow, dif_pos hlt]
  simp [table]

/-- One more byte is divided as eight bits are. -/
theorem dvd_step (r : UInt32) (b : UInt8) :
    generator ∣ X ^ 8 * reflected 32 r.toNat + X ^ 32 * reflected 8 b.toNat -
      reflected 32 (step r b).toNat := by
  obtain ⟨x, hx⟩ : ∃ x, x = (r ^^^ b.toUInt32).toNat := ⟨_, rfl⟩
  have hsum : reflected 32 x = reflected 32 r.toNat + reflected 32 b.toNat := by
    rw [hx, UInt32.toNat_xor, reflected_xor]
    rfl
  have hshift := shift_reflected (k := 8) (by decide) (hx ▸ (r ^^^ b.toUInt32).toNat_lt)
  have hlow : reflected 32 (x % 256) = X ^ 24 * reflected 8 x := by
    rw [← reflected_mod 8 x]
    exact reflected_of_lt (show x % 256 < 2 ^ 8 from Nat.mod_lt x (by decide)) 24
  have hhigh : (r >>> 8).toNat = x / 2 ^ 8 := by
    have hb : b.toUInt32.toNat / 2 ^ 8 = 0 := Nat.div_eq_of_lt b.toNat_lt
    rw [hx, UInt32.toNat_xor, ← Nat.shiftRight_eq_div_pow, Nat.shiftRight_xor_distrib,
      Nat.shiftRight_eq_div_pow b.toUInt32.toNat, hb, Nat.xor_zero, UInt32.toNat_shiftRight]
    rfl
  have hstep : reflected 32 (step r b).toNat =
      reflected 32 (remainder (x % 256)).toNat + reflected 32 (x / 2 ^ 8) := by
    rw [step_eq, ← hx, UInt32.toNat_xor, reflected_xor, hhigh]
  have hrest : X ^ 8 * reflected 32 r.toNat + X ^ 32 * reflected 8 b.toNat -
      reflected 32 (step r b).toNat =
        X ^ 8 * reflected 32 (x % 256) - reflected 32 (remainder (x % 256)).toNat := by
    rw [hstep, hlow]
    rw [hsum, reflected_byte] at hshift
    linear_combination hshift
  rw [hrest]
  exact dvd_remainder (Nat.lt_trans (Nat.mod_lt x (by decide)) (by decide))

/-- The register after bytes is the remainder of what stood in it, followed by the bytes. -/
theorem dvd_foldl (bytes : List UInt8) (p : (ZMod 2)[X]) (r : UInt32) (q : (ZMod 2)[X])
    (h : generator ∣ X ^ 32 * p + q - reflected 32 r.toNat) :
    generator ∣ X ^ 32 * bytes.foldl (fun p b => X ^ 8 * p + reflected 8 b.toNat) p +
      X ^ (8 * bytes.length) * q - reflected 32 (bytes.foldl step r).toNat := by
  induction bytes generalizing p q r with
  | nil => simpa using h
  | cons b bytes ih =>
    have hone : generator ∣ X ^ 32 * (X ^ 8 * p + reflected 8 b.toNat) + X ^ 8 * q -
        reflected 32 (step r b).toNat := by
      have hsum : X ^ 32 * (X ^ 8 * p + reflected 8 b.toNat) + X ^ 8 * q -
          reflected 32 (step r b).toNat =
            X ^ 8 * (X ^ 32 * p + q - reflected 32 r.toNat) +
              (X ^ 8 * reflected 32 r.toNat + X ^ 32 * reflected 8 b.toNat -
                reflected 32 (step r b).toNat) := by
        ring
      rw [hsum]
      exact dvd_add (dvd_mul_of_dvd_right h _) (dvd_step r b)
    have hlength : X ^ (8 * (b :: bytes).length) * q = X ^ (8 * bytes.length) * (X ^ 8 * q) := by
      rw [List.length_cons]
      ring
    rw [hlength]
    exact ih _ _ _ hone

/-! ## Remainders -/

theorem coeff_reflected (count n k : Nat) : (reflected count n).coeff k =
    if k < count ∧ n.testBit (count - 1 - k) then 1 else 0 := by
  have hterm : ∀ i ∈ Finset.range count,
      (if n.testBit i then (X : (ZMod 2)[X]) ^ (count - 1 - i) else 0).coeff k =
        if i = count - 1 - k ∧ k < count then
          if n.testBit (count - 1 - k) then 1 else 0
        else 0 := by
    intro i hi
    have hlt := Finset.mem_range.mp hi
    by_cases hk : i = count - 1 - k ∧ k < count
    · have hplace : k = count - 1 - i := by omega
      rw [if_pos hk, ← hk.1]
      cases n.testBit i <;> simp [hplace]
    · have hplace : k ≠ count - 1 - i := by omega
      rw [if_neg hk]
      cases n.testBit i <;> simp [coeff_X_pow, hplace]
  rw [reflected, finsetSum_coeff, Finset.sum_congr rfl hterm]
  by_cases hk : k < count
  · have hmem : count - 1 - k ∈ Finset.range count := Finset.mem_range.mpr (by omega)
    simp only [hk, and_true, true_and]
    rw [Finset.sum_ite_eq' _ _ _, if_pos hmem]
  · simp [hk]

theorem degree_reflected_lt (count n : Nat) : (reflected count n).degree < count := by
  rw [degree_lt_iff_coeff_zero]
  intro k hk
  rw [coeff_reflected, if_neg (by omega)]

/-- A number is known by its coefficients. -/
theorem reflected_injective (hm : m < 2 ^ count) (hn : n < 2 ^ count)
    (h : reflected count m = reflected count n) : m = n := by
  refine Nat.eq_of_testBit_eq fun i => ?_
  by_cases hi : i < count
  · have hcoeff := congrArg (fun p => p.coeff (count - 1 - i)) h
    simp only [coeff_reflected, show count - 1 - i < count by omega,
      show count - 1 - (count - 1 - i) = i by omega, true_and] at hcoeff
    cases hbit : m.testBit i <;> cases hbit' : n.testBit i <;> simp_all
  · have hle : 2 ^ count ≤ 2 ^ i := Nat.pow_le_pow_right (by decide) (by omega)
    rw [Nat.testBit_lt_two_pow (Nat.lt_of_lt_of_le hm hle),
      Nat.testBit_lt_two_pow (Nat.lt_of_lt_of_le hn hle)]

theorem monic_generator : generator.Monic := by
  rw [generator_eq]
  exact monic_X_pow_add (degree_reflected_lt 32 _)

theorem degree_generator : generator.degree = 32 := by
  have hlt : (reflected 32 0xEDB88320).degree < (X ^ 32 : (ZMod 2)[X]).degree := by
    rw [degree_X_pow]
    exact degree_reflected_lt 32 _
  rw [generator_eq, degree_add_eq_left_of_degree_lt hlt, degree_X_pow]
  rfl

/-- The one polynomial of degree below 32 that the generator leaves. -/
theorem modByMonic_generator {p : (ZMod 2)[X]} {n : Nat}
    (h : generator ∣ p - reflected 32 n) : p %ₘ generator = reflected 32 n := by
  rw [modByMonic_eq_of_dvd_sub monic_generator h, modByMonic_eq_self_iff monic_generator,
    degree_generator]
  exact degree_reflected_lt 32 n

/-- The checksum that is computed is the one that the division defines. -/
theorem isChecksum_iff (content : ByteArray) (n : Nat) :
    IsChecksum content n ↔ n = (checksum content).toNat := by
  have hstart : generator ∣ X ^ 32 * 0 + reflected 32 0xFFFFFFFF -
      reflected 32 (0xFFFFFFFF : UInt32).toNat := by
    rw [mul_zero, zero_add]
    exact (sub_self (reflected 32 0xFFFFFFFF)).symm ▸ dvd_zero generator
  have hrest := modByMonic_generator
    (dvd_foldl (Bytes.toBytes content) 0 0xFFFFFFFF (reflected 32 0xFFFFFFFF) hstart)
  have hsum : reflected 32 (checksum content).toNat + reflected 32 0xFFFFFFFF =
      reflected 32 ((Bytes.toBytes content).foldl step 0xFFFFFFFF).toNat := by
    rw [checksum_eq, UInt32.toNat_xor, reflected_xor, add_assoc]
    exact (congrArg _ (CharTwo.add_self_eq_zero _)).trans (add_zero _)
  unfold IsChecksum message
  rw [← Bytes.length_toBytes, hrest, ← hsum]
  constructor
  · rintro ⟨hlt, heq⟩
    exact reflected_injective hlt (checksum content).toNat_lt (add_right_cancel heq)
  · rintro rfl
    exact ⟨(checksum content).toNat_lt, rfl⟩

end StatusRegistry.Crc32

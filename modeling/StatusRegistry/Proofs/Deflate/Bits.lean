import Mathlib.Algebra.GroupWithZero.Nat
import StatusRegistry.Deflate.Inflate
import StatusRegistry.Proofs.Bytes.Positions

/-!
# Bits and the numbers they write

What it means that bits stand at a position of some bytes, and that they write a number: from its
low end on, as most numbers of compressed data, or from its high end on, as code words.

* `BitAt`, `Number`, `Leading`: bits and numbers at a position;
* `readBits_eq_ok_iff`: the reader of bits finds the number that stands there, and no other;
* `number_add_iff`, `number_byte_iff`: the low and the high part of a number, and numbers of whole
  bytes;
* `Number.append`, `Leading.append`: bytes behind others leave the numbers in these as they are.
-/

set_option autoImplicit false

namespace StatusRegistry.Deflate

open Bytes

variable {src : ByteArray} {pos count n : Nat}

/-- A bit at a position; positions are counted from the low end of the first byte on. -/
def BitAt (src : ByteArray) (pos : Nat) (b : Bool) : Prop :=
  pos / 8 < src.size ∧ (byteAt src (pos / 8)).toNat.testBit (pos % 8) = b

/-- A number of so many bits, the lowest first. -/
def Number (src : ByteArray) (pos count n : Nat) : Prop :=
  n < 2 ^ count ∧ ∀ i < count, BitAt src (pos + i) (n.testBit i)

/-- A number of so many bits, the highest first. -/
def Leading (src : ByteArray) (pos count n : Nat) : Prop :=
  n < 2 ^ count ∧ ∀ i < count, BitAt src (pos + i) (n.testBit (count - 1 - i))

instance (src : ByteArray) (pos : Nat) (b : Bool) : Decidable (BitAt src pos b) :=
  inferInstanceAs (Decidable (_ ∧ _))

instance (src : ByteArray) (pos count n : Nat) : Decidable (Number src pos count n) :=
  inferInstanceAs (Decidable (_ ∧ _))

instance (src : ByteArray) (pos count n : Nat) : Decidable (Leading src pos count n) :=
  inferInstanceAs (Decidable (_ ∧ _))

/-! ## Single bits -/

theorem bit?_eq (h : pos / 8 < src.size) :
    bit? src pos = some ((byteAt src (pos / 8)).toNat.testBit (pos % 8)) := by
  rw [bit?, dif_pos h, byteAt, dif_pos h]

theorem bit?_eq_some_iff {b : Bool} : bit? src pos = some b ↔ BitAt src pos b := by
  by_cases h : pos / 8 < src.size
  · rw [bit?_eq h, Option.some.injEq]
    exact (and_iff_right h).symm
  · rw [bit?, dif_neg h]
    exact ⟨nofun, fun hbit => absurd hbit.1 h⟩

theorem BitAt.lt {b : Bool} (h : BitAt src pos b) : pos < 8 * src.size := by
  have hlt := h.1
  omega

/-- A position holds one bit. -/
theorem BitAt.unique {b b' : Bool} (h : BitAt src pos b) (h' : BitAt src pos b') : b = b' :=
  h.2.symm.trans h'.2

theorem BitAt.append {b : Bool} (h : BitAt src pos b) (rest : ByteArray) :
    BitAt (src ++ rest) pos b := by
  obtain ⟨hlt, hbit⟩ := h
  refine ⟨by rw [ByteArray.size_append]; omega, ?_⟩
  rw [byteAt_append hlt, hbit]

/-! ## Numbers -/

theorem number_zero_iff : Number src pos 0 n ↔ n = 0 := by
  unfold Number
  constructor
  · rintro ⟨hlt, -⟩
    omega
  · rintro rfl
    exact ⟨by decide, nofun⟩

/-- The low part of a number stands in front of its high part. -/
theorem number_add_iff {low high : Nat} :
    Number src pos (low + high) n ↔
      Number src pos low (n % 2 ^ low) ∧ Number src (pos + low) high (n / 2 ^ low) := by
  have hlt : n < 2 ^ (low + high) ↔ n / 2 ^ low < 2 ^ high := by
    rw [Nat.div_lt_iff_lt_mul (Nat.two_pow_pos low), ← Nat.pow_add, Nat.add_comm high]
  have hlow : ∀ {i}, i < low → (n % 2 ^ low).testBit i = n.testBit i := by
    intro i hi
    rw [Nat.testBit_mod_two_pow, decide_eq_true hi, Bool.true_and]
  have hhigh : ∀ i, (n / 2 ^ low).testBit i = n.testBit (low + i) := by
    intro i
    rw [Nat.testBit_div_two_pow, Nat.add_comm]
  unfold Number
  rw [hlt]
  constructor
  · rintro ⟨hn, hbits⟩
    refine ⟨⟨Nat.mod_lt _ (Nat.two_pow_pos low), fun i hi => ?_⟩, hn, fun i hi => ?_⟩
    · rw [hlow hi]
      exact hbits i (by omega)
    · rw [hhigh, Nat.add_assoc]
      exact hbits (low + i) (by omega)
  · rintro ⟨⟨-, hfront⟩, hn, hback⟩
    refine ⟨hn, fun i hi => ?_⟩
    by_cases hfirst : i < low
    · rw [← hlow hfirst]
      exact hfront i hfirst
    · obtain ⟨j, rfl⟩ : ∃ j, i = low + j := ⟨i - low, by omega⟩
      rw [← hhigh, ← Nat.add_assoc]
      exact hback j (by omega)

theorem number_one_iff {b : Bool} : Number src pos 1 b.toNat ↔ BitAt src pos b := by
  unfold Number
  have hbit : b.toNat.testBit 0 = b := by cases b <;> rfl
  constructor
  · rintro ⟨-, hbits⟩
    have hfirst := hbits 0 Nat.zero_lt_one
    rwa [hbit] at hfirst
  · intro h
    refine ⟨by cases b <;> decide, fun i hi => ?_⟩
    cases Nat.lt_one_iff.mp hi
    rwa [hbit]

/-- The first bit of a number is its lowest, and the others write its half. -/
theorem number_succ_iff :
    Number src pos (count + 1) n ↔
      ∃ b m, BitAt src pos b ∧ Number src (pos + 1) count m ∧ n = b.toNat + 2 * m := by
  rw [Nat.add_comm count, number_add_iff, Nat.pow_one]
  constructor
  · rintro ⟨hfirst, hrest⟩
    have hbit : (n % 2 == 1).toNat = n % 2 := by
      rcases Nat.mod_two_eq_zero_or_one n with h | h <;> rw [h] <;> rfl
    rw [← hbit] at hfirst
    exact ⟨n % 2 == 1, n / 2, number_one_iff.mp hfirst, hrest, by omega⟩
  · rintro ⟨b, m, hfirst, hrest, rfl⟩
    have hlt : b.toNat < 2 := Bool.toNat_lt b
    rw [show (b.toNat + 2 * m) % 2 = b.toNat by omega, show (b.toNat + 2 * m) / 2 = m by omega]
    exact ⟨number_one_iff.mpr hfirst, hrest⟩

/-- **Bits are read iff they are there, as the number that they write.** -/
theorem readBits_eq_ok_iff : readBits src count pos = .ok n ↔ Number src pos count n := by
  induction count generalizing pos n with
  | zero =>
    rw [readBits, number_zero_iff, Except.ok.injEq, eq_comm]
  | succ count ih =>
    rw [readBits, number_succ_iff]
    constructor
    · intro h
      split at h
      · cases h
      · rename_i b hbit
        split at h
        · rename_i m hmore
          cases h
          exact ⟨b, m, bit?_eq_some_iff.mp hbit, ih.mp hmore, rfl⟩
        · cases h
    · rintro ⟨b, m, hbit, hmore, rfl⟩
      simp only [bit?_eq_some_iff.mpr hbit, ih.mpr hmore]

/-- One number stands at a position. -/
theorem Number.unique {n' : Nat} (h : Number src pos count n) (h' : Number src pos count n') :
    n = n' :=
  Except.ok.inj ((readBits_eq_ok_iff.mpr h).symm.trans (readBits_eq_ok_iff.mpr h'))

theorem Number.append (h : Number src pos count n) (rest : ByteArray) :
    Number (src ++ rest) pos count n :=
  ⟨h.1, fun i hi => (h.2 i hi).append rest⟩

theorem Leading.append (h : Leading src pos count n) (rest : ByteArray) :
    Leading (src ++ rest) pos count n :=
  ⟨h.1, fun i hi => (h.2 i hi).append rest⟩

/-! ## Whole bytes -/

theorem number_byte_iff {i : Nat} :
    Number src (8 * i) 8 n ↔ i < src.size ∧ n = (byteAt src i).toNat := by
  have hbyte : ∀ k < 8, ∀ b, BitAt src (8 * i + k) b ↔
      i < src.size ∧ (byteAt src i).toNat.testBit k = b := by
    intro k hk b
    unfold BitAt
    rw [show (8 * i + k) / 8 = i by omega, show (8 * i + k) % 8 = k by omega]
  have hmodel : i < src.size → Number src (8 * i) 8 (byteAt src i).toNat := fun hi =>
    ⟨(byteAt src i).toNat_lt, fun k hk => (hbyte k hk _).mpr ⟨hi, rfl⟩⟩
  constructor
  · intro h
    have hi := ((hbyte 0 (by decide) _).mp (h.2 0 (by decide))).1
    exact ⟨hi, h.unique (hmodel hi)⟩
  · rintro ⟨hi, rfl⟩
    exact hmodel hi

/-- Two bytes write a number, the low one first. -/
theorem number_two_bytes_iff {i : Nat} :
    Number src (8 * i) 16 n ↔ i + 2 ≤ src.size ∧ n = readLittle src i := by
  rw [show (16 : Nat) = 8 + 8 from rfl, number_add_iff, show 8 * i + 8 = 8 * (i + 1) by omega,
    number_byte_iff, number_byte_iff]
  unfold readLittle
  have hlow := (byteAt src i).toNat_lt
  omega

end StatusRegistry.Deflate

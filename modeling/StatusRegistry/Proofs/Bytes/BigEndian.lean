import Mathlib.Tactic.Ring
import StatusRegistry.Proofs.Bytes.Positions

/-!
# A buffer as one number

The bytes of a buffer are the digits of a number, the first byte the highest.

* `number_eq`, `number_set`: the number around one byte, and with another byte in its place;
* `number_lt`, `eq_of_number`: buffers of one size are the numbers below a power of 256.
-/

set_option autoImplicit false

namespace StatusRegistry.Bytes

/-- The number whose digits are the given bytes, the highest one first. -/
def numberOf (bytes : List UInt8) : Nat := bytes.foldl (fun n b => n * 256 + b.toNat) 0

/-- A buffer read as one number. -/
def number (data : ByteArray) : Nat := numberOf (toBytes data)

theorem foldl_number (bytes : List UInt8) (n : Nat) :
    bytes.foldl (fun n b => n * 256 + b.toNat) n = n * 256 ^ bytes.length + numberOf bytes := by
  induction bytes generalizing n with
  | nil => simp [numberOf]
  | cons b rest ih =>
    rw [numberOf, List.foldl_cons, List.foldl_cons, ih, ih (0 * 256 + b.toNat), List.length_cons]
    ring

theorem numberOf_append (front back : List UInt8) :
    numberOf (front ++ back) = numberOf front * 256 ^ back.length + numberOf back := by
  rw [numberOf, List.foldl_append, foldl_number]
  rfl

theorem numberOf_cons (b : UInt8) (rest : List UInt8) :
    numberOf (b :: rest) = b.toNat * 256 ^ rest.length + numberOf rest := by
  rw [numberOf, List.foldl_cons, foldl_number, Nat.zero_mul, Nat.zero_add]

theorem numberOf_lt (bytes : List UInt8) : numberOf bytes < 256 ^ bytes.length := by
  induction bytes with
  | nil => exact Nat.one_pos
  | cons b rest ih =>
    have hb : b.toNat + 1 ≤ 256 := UInt8.toNat_lt b
    calc numberOf (b :: rest) < b.toNat * 256 ^ rest.length + 256 ^ rest.length := by
          rw [numberOf_cons]
          exact Nat.add_lt_add_left ih _
      _ = (b.toNat + 1) * 256 ^ rest.length := (Nat.succ_mul _ _).symm
      _ ≤ 256 * 256 ^ rest.length := Nat.mul_le_mul_right _ hb
      _ = 256 ^ (b :: rest).length := (Nat.pow_succ' ..).symm

/-- Bytes of one number of digits are the digits of the number. -/
theorem eq_of_numberOf {a b : List UInt8} (hlength : a.length = b.length)
    (h : numberOf a = numberOf b) : a = b := by
  induction a generalizing b with
  | nil => exact (List.length_eq_zero_iff.mp hlength.symm).symm
  | cons x a ih =>
    obtain _ | ⟨y, b⟩ := b
    · cases hlength
    have hrest : a.length = b.length := Nat.succ.inj hlength
    have hpos : 0 < 256 ^ b.length := Nat.pow_pos (by decide)
    have ha := hrest ▸ numberOf_lt a
    have hb := numberOf_lt b
    rw [numberOf_cons, numberOf_cons, hrest, Nat.mul_comm x.toNat, Nat.mul_comm y.toNat] at h
    have hhigh : x.toNat = y.toNat := by
      have := congrArg (fun n => n / 256 ^ b.length) h
      simpa only [Nat.mul_add_div hpos, Nat.div_eq_of_lt ha, Nat.div_eq_of_lt hb, Nat.add_zero]
        using this
    rw [hhigh] at h
    rw [UInt8.toNat_inj.mp hhigh, ih hrest (Nat.add_left_cancel h)]

/-! ## Numbers of buffers -/

theorem number_lt (data : ByteArray) : number data < 256 ^ data.size := by
  simpa only [number, length_toBytes] using numberOf_lt (toBytes data)

/-- Buffers of one size with the same number are the same. -/
theorem eq_of_number {a b : ByteArray} (hsize : a.size = b.size) (h : number a = number b) :
    a = b :=
  toBytes_injective (eq_of_numberOf (by simpa using hsize) h)

/-- The number of the bytes in front of a position. -/
def numberBefore (data : ByteArray) (i : Nat) : Nat := numberOf ((toBytes data).take i)

/-- The number of the bytes behind a position. -/
def numberAfter (data : ByteArray) (i : Nat) : Nat := numberOf ((toBytes data).drop (i + 1))

theorem numberAfter_lt (data : ByteArray) (i : Nat) :
    numberAfter data i < 256 ^ (data.size - (i + 1)) := by
  simpa only [numberAfter, List.length_drop, length_toBytes] using
    numberOf_lt ((toBytes data).drop (i + 1))

/-- The number of a buffer with a given byte at a position. -/
theorem number_set {data : ByteArray} {i : Nat} (h : i < data.size) (b : UInt8) :
    number (data.set! i b) =
      (numberBefore data i * 256 + b.toNat) * 256 ^ (data.size - (i + 1)) + numberAfter data i := by
  have hlength : ((toBytes data).drop (i + 1)).length = data.size - (i + 1) := by
    rw [List.length_drop, length_toBytes]
  rw [number, toBytes_set, List.set_eq_take_append_cons_drop, if_pos (by simpa using h),
    numberOf_append, numberOf_cons, List.length_cons, hlength, numberBefore, numberAfter]
  ring

theorem number_eq {data : ByteArray} {i : Nat} (h : i < data.size) :
    number data = (numberBefore data i * 256 + (byteAt data i).toNat) *
      256 ^ (data.size - (i + 1)) + numberAfter data i := by
  have hsame : data.set! i (byteAt data i) = data := by
    refine eq_of_byteAt (size_set data i _) fun j _ => ?_
    by_cases hj : i = j
    · rw [← hj, byteAt_set_self h]
    · rw [byteAt_set_of_ne hj]
  rw [← number_set h, hsame]

end StatusRegistry.Bytes

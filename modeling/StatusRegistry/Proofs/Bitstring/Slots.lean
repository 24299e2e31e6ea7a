import StatusRegistry.Bitstring.Packing
import StatusRegistry.Proofs.Bitstring.Digits
import StatusRegistry.Proofs.Bytes.BigEndian

/-!
# Reading and writing slots

The slots of a buffer are the digits of its number, the first slot the highest one.  A slot that
lies in the buffer can be read, and written with any code of its width; what is written is read
back, and no other slot of the buffer changes, whatever width it is read with.

* `readSlot_eq_ok`, `readSlot_eq_error`: a slot is read iff it lies in the buffer;
* `readSlot_number`, `writeSlot_number`: what is read and written, as digits of the number;
* `readSlot_apart`: slots that have no bit in common with a written one keep their codes;
* `writeSlot_ok`, `slotSet_of_writeSlot`: what writing does to the slots of the same width;
* `eq_of_readSlot`: a buffer is nothing but its slots.
-/

set_option autoImplicit false

namespace StatusRegistry.Bitstring

open Bytes

/-! ## Slots of a byte -/

theorem unit_pos (width : SlotWidth) (place : Nat) : 0 < unit width place := Nat.two_pow_pos _

theorem codeCount_pos (width : SlotWidth) : 0 < width.codeCount := Nat.two_pow_pos _

theorem codeCount_le (width : SlotWidth) : width.codeCount ≤ 256 := by cases width <;> decide

theorem perByte_pos (width : SlotWidth) : 0 < perByte width := by cases width <;> decide

theorem lt_codeCount_iff {width : SlotWidth} {code : Nat} :
    code < width.codeCount ↔ code ≤ width.maxCode := by
  have := codeCount_pos width
  unfold SlotWidth.maxCode
  omega

theorem withSlot_eq (width : SlotWidth) (place code byte : Nat) :
    withSlot width place code byte = withDigit (unit width place) width.codeCount code byte := rfl

/-- The slots of a byte fill it: the weight of a slot and its codes divide 256. -/
theorem unit_mul_codeCount_dvd {width : SlotWidth} {place : Nat} (h : place < perByte width) :
    unit width place * width.codeCount ∣ 256 := by
  have hbits : width.bits * (perByte width - 1 - place) + width.bits ≤ 8 := by
    revert h
    cases width <;> simp only [perByte, SlotWidth.bits] <;> omega
  rw [unit, SlotWidth.codeCount, Nat.pow_eq, Nat.pow_eq, ← Nat.pow_add]
  exact Nat.pow_dvd_pow 2 hbits

/-- A written slot of a byte stays a byte. -/
theorem withSlot_lt {width : SlotWidth} {place code byte : Nat} (hplace : place < perByte width)
    (hcode : code < width.codeCount) (hbyte : byte < 256) :
    withSlot width place code byte < 256 := by
  have hnew := digit_lt (unit_pos width place) hcode byte
  have hdvd := unit_mul_codeCount_dvd hplace
  rw [withSlot_eq, withDigit_eq]
  generalize unit width place * width.codeCount = d at *
  obtain ⟨n, hn⟩ := hdvd
  have hq : byte / d < n := by
    rw [Nat.div_lt_iff_lt_mul (by omega), Nat.mul_comm, ← hn]
    exact hbyte
  calc d * (byte / d) + (code * unit width place + byte % unit width place)
      < d * (byte / d) + d := Nat.add_lt_add_left hnew _
    _ = d * (byte / d + 1) := (Nat.mul_succ d _).symm
    _ ≤ d * n := Nat.mul_le_mul_left d hq
    _ = 256 := hn.symm

/-! ## Slots of a buffer -/

theorem slotCount_eq (size : Nat) (width : SlotWidth) :
    slotCount size width = size * perByte width := by
  cases width <;> simp only [slotCount, perByte, SlotWidth.bits] <;> omega

/-- The byte of a slot in the buffer lies in the buffer. -/
theorem div_perByte_lt {size index : Nat} {width : SlotWidth} (h : index < slotCount size width) :
    index / perByte width < size := by
  rw [slotCount_eq] at h
  exact (Nat.div_lt_iff_lt_mul (perByte_pos width)).mpr h

theorem readSlot_eq_ok {data : ByteArray} {index : Nat} {width : SlotWidth}
    (h : index < slotCount data.size width) :
    readSlot data index width =
      .ok (.ofNat (slotOf width (index % perByte width)
        (byteAt data (index / perByte width)).toNat)) := by
  unfold readSlot checkSlot
  simp only [if_pos h]
  rfl

theorem readSlot_eq_error {data : ByteArray} {index : Nat} {width : SlotWidth}
    (h : slotCount data.size width ≤ index) :
    readSlot data index width = .error (.indexOutOfRange index (slotCount data.size width)) := by
  unfold readSlot checkSlot
  simp only [if_neg (Nat.not_lt.mpr h)]
  rfl

/-- Only a slot past the end is not read. -/
theorem readSlot_error_iff {data : ByteArray} {index : Nat} {width : SlotWidth} {e : CodecError} :
    readSlot data index width = .error e ↔ slotCount data.size width ≤ index ∧
      e = .indexOutOfRange index (slotCount data.size width) := by
  constructor
  · intro h
    by_cases hindex : index < slotCount data.size width
    · rw [readSlot_eq_ok hindex] at h
      cases h
    · rw [readSlot_eq_error (Nat.not_lt.mp hindex)] at h
      cases h
      exact ⟨Nat.not_lt.mp hindex, rfl⟩
  · rintro ⟨hindex, rfl⟩
    exact readSlot_eq_error hindex

/-- A code that was read from a slot fits the slot. -/
theorem readSlot_lt {data : ByteArray} {index : Nat} {width : SlotWidth} {code : UInt8}
    (h : readSlot data index width = .ok code) : code.toNat < width.codeCount := by
  by_cases hindex : index < slotCount data.size width
  · rw [readSlot_eq_ok hindex] at h
    cases h
    rw [UInt8.toNat_ofNat']
    exact Nat.lt_of_le_of_lt (Nat.mod_le _ _) (slotOf_lt _ _ _)
  · rw [readSlot_eq_error (Nat.not_lt.mp hindex)] at h
    cases h

/-! ## Slots as digits of the number -/

/-- The weight of the lowest bit of a slot in the number of a buffer. -/
def weight (size index : Nat) (width : SlotWidth) : Nat :=
  2 ^ (8 * size - (index + 1) * width.bits)

theorem weight_pos (size index : Nat) (width : SlotWidth) : 0 < weight size index width :=
  Nat.two_pow_pos _

theorem weight_eq {size index : Nat} {width : SlotWidth} (h : index < slotCount size width) :
    weight size index width =
      unit width (index % perByte width) * 256 ^ (size - (index / perByte width + 1)) := by
  have hbits : 8 * size - (index + 1) * width.bits =
      width.bits * (perByte width - 1 - index % perByte width) +
        8 * (size - (index / perByte width + 1)) := by
    revert h
    cases width <;> simp only [slotCount, perByte, SlotWidth.bits] <;> omega
  rw [weight, hbits, Nat.pow_add, Nat.pow_mul 2 8]
  rfl

/-- A slot is a digit of the number of its buffer. -/
theorem slotOf_number {data : ByteArray} {index : Nat} {width : SlotWidth}
    (h : index < slotCount data.size width) :
    slotOf width (index % perByte width) (byteAt data (index / perByte width)).toNat =
      number data / weight data.size index width % width.codeCount := by
  have hplace := Nat.mod_lt index (perByte_pos width)
  rw [number_eq (div_perByte_lt h), weight_eq h,
    digit_part (unit_mul_codeCount_dvd hplace) (numberAfter_lt _ _)]
  rfl

/-- **A slot that is read is a digit of the number of the buffer.** -/
theorem readSlot_number {data : ByteArray} {index : Nat} {width : SlotWidth}
    (h : index < slotCount data.size width) :
    readSlot data index width =
      .ok (.ofNat (number data / weight data.size index width % width.codeCount)) := by
  rw [readSlot_eq_ok h, slotOf_number h]

theorem toNat_ofNat_code {width : SlotWidth} {code : Nat} (h : code < width.codeCount) :
    (UInt8.ofNat code).toNat = code := by
  rw [UInt8.toNat_ofNat']
  exact Nat.mod_eq_of_lt (Nat.lt_of_lt_of_le h (codeCount_le width))

/-- **Writing a slot puts a digit in the number of the buffer.** -/
theorem writeSlot_number {data : ByteArray} {index : Nat} {width : SlotWidth} {code : UInt8}
    (hindex : index < slotCount data.size width) (hcode : code.toNat ≤ width.maxCode) :
    ∃ data', writeSlot data index width code = .ok data' ∧ data'.size = data.size ∧
      number data' =
        withDigit (weight data.size index width) width.codeCount code.toNat (number data) := by
  have hlt : code.toNat < width.codeCount := lt_codeCount_iff.mpr hcode
  have hplace := Nat.mod_lt index (perByte_pos width)
  have hi := div_perByte_lt hindex
  have hbyte := withSlot_lt hplace hlt (UInt8.toNat_lt (byteAt data (index / perByte width)))
  refine ⟨data.set! (index / perByte width) (.ofNat (withSlot width (index % perByte width)
    code.toNat (byteAt data (index / perByte width)).toNat)), ?_, size_set .., ?_⟩
  · unfold writeSlot checkSlot
    rw [if_neg (Nat.not_lt.mpr hcode)]
    simp only [if_pos hindex]
  · rw [number_set hi, UInt8.toNat_ofNat', Nat.mod_eq_of_lt hbyte, withSlot_eq,
      withDigit_part (unit_mul_codeCount_dvd hplace) (numberAfter_lt _ _), ← number_eq hi,
      ← weight_eq hindex]

theorem writeSlot_tooWide {data : ByteArray} {index : Nat} {width : SlotWidth} {code : UInt8}
    (h : width.maxCode < code.toNat) :
    writeSlot data index width code = .error (.valueTooWide code.toNat width.bits) := by
  rw [writeSlot, if_pos h]

theorem writeSlot_outOfRange {data : ByteArray} {index : Nat} {width : SlotWidth} {code : UInt8}
    (hcode : code.toNat ≤ width.maxCode) (h : slotCount data.size width ≤ index) :
    writeSlot data index width code =
      .error (.indexOutOfRange index (slotCount data.size width)) := by
  unfold writeSlot checkSlot
  rw [if_neg (Nat.not_lt.mpr hcode)]
  simp only [if_neg (Nat.not_lt.mpr h)]

/-- A code that does not fit is not written, and neither is a slot past the end. -/
theorem writeSlot_error_iff {data : ByteArray} {index : Nat} {width : SlotWidth} {code : UInt8}
    {e : CodecError} :
    writeSlot data index width code = .error e ↔
      (width.maxCode < code.toNat ∧ e = .valueTooWide code.toNat width.bits) ∨
        (code.toNat ≤ width.maxCode ∧ slotCount data.size width ≤ index ∧
          e = .indexOutOfRange index (slotCount data.size width)) := by
  constructor
  · intro h
    by_cases hcode : code.toNat ≤ width.maxCode
    · by_cases hindex : index < slotCount data.size width
      · obtain ⟨data', hwrite, -⟩ := writeSlot_number hindex hcode
        rw [hwrite] at h
        cases h
      · rw [writeSlot_outOfRange hcode (Nat.not_lt.mp hindex)] at h
        cases h
        exact .inr ⟨hcode, Nat.not_lt.mp hindex, rfl⟩
    · rw [writeSlot_tooWide (Nat.not_le.mp hcode)] at h
      cases h
      exact .inl ⟨Nat.not_le.mp hcode, rfl⟩
  · rintro (⟨hcode, rfl⟩ | ⟨hcode, hindex, rfl⟩)
    · exact writeSlot_tooWide hcode
    · exact writeSlot_outOfRange hcode hindex

/-- Only a code that fits is written, and only into a slot of the buffer. -/
theorem within_of_writeSlot {data data' : ByteArray} {index : Nat} {width : SlotWidth}
    {code : UInt8} (h : writeSlot data index width code = .ok data') :
    index < slotCount data.size width ∧ code.toNat ≤ width.maxCode := by
  by_cases hcode : code.toNat ≤ width.maxCode
  · refine ⟨Nat.lt_of_not_le fun hindex => ?_, hcode⟩
    rw [writeSlot_outOfRange hcode hindex] at h
    cases h
  · rw [writeSlot_tooWide (Nat.not_le.mp hcode)] at h
    cases h

/-! ## What writing a slot leaves alone -/

/-- Two slots, perhaps of different widths, have no bit in common. -/
def Apart (i : Nat) (w : SlotWidth) (j : Nat) (v : SlotWidth) : Prop :=
  (i + 1) * w.bits ≤ j * v.bits ∨ (j + 1) * v.bits ≤ i * w.bits

theorem apart_of_ne {i j : Nat} (width : SlotWidth) (h : i ≠ j) : Apart i width j width :=
  (Nat.lt_or_gt_of_ne h).imp (Nat.mul_le_mul_right _) (Nat.mul_le_mul_right _)

/-- A slot further in front is worth a multiple of all codes of a slot behind it. -/
theorem weight_mul_codeCount_dvd {size i j : Nat} {w v : SlotWidth}
    (h : (i + 1) * w.bits ≤ j * v.bits) (hj : j < slotCount size v) :
    weight size j v * v.codeCount ∣ weight size i w := by
  have hend : (j + 1) * v.bits ≤ 8 * size := Nat.mul_le_of_le_div _ _ _ hj
  have hbits : 8 * size - (j + 1) * v.bits + v.bits ≤ 8 * size - (i + 1) * w.bits := by
    have hnext := Nat.add_one_mul j v.bits
    omega
  rw [weight, weight, SlotWidth.codeCount, Nat.pow_eq, ← Nat.pow_add]
  exact Nat.pow_dvd_pow 2 hbits

/-- **Slots that have no bit in common with a written one keep their codes.** -/
theorem readSlot_apart {data data' : ByteArray} {i j : Nat} {w v : SlotWidth} {code : UInt8}
    (h : writeSlot data i w code = .ok data') (hapart : Apart i w j v) :
    readSlot data' j v = readSlot data j v := by
  obtain ⟨hi, hcode⟩ := within_of_writeSlot h
  obtain ⟨found, hfound, hsize, hnumber⟩ := writeSlot_number hi hcode
  cases h.symm.trans hfound
  by_cases hj : j < slotCount data.size v
  · rw [readSlot_number (hsize ▸ hj), readSlot_number hj, hsize, hnumber]
    rcases hapart with hbelow | habove
    · rw [withDigit_below (weight_mul_codeCount_dvd hbelow hj)]
    · rw [withDigit_above (weight_pos _ _ _) (lt_codeCount_iff.mpr hcode)
        (weight_mul_codeCount_dvd habove hi)]
  · rw [readSlot_eq_error (hsize ▸ Nat.not_lt.mp hj), readSlot_eq_error (Nat.not_lt.mp hj), hsize]

/-- A slot that is written holds its code, and nothing else in the buffer changes. -/
structure SlotSet (data data' : ByteArray) (width : SlotWidth) (index : Nat) (code : UInt8) :
    Prop where
  size_eq : data'.size = data.size
  read_self : readSlot data' index width = .ok code
  read_other : ∀ other, other ≠ index → readSlot data' other width = readSlot data other width

/-- **A code that fits is written into any slot of the buffer.** -/
theorem writeSlot_ok {data : ByteArray} {index : Nat} {width : SlotWidth} {code : UInt8}
    (hindex : index < slotCount data.size width) (hcode : code.toNat ≤ width.maxCode) :
    ∃ data', writeSlot data index width code = .ok data' ∧
      SlotSet data data' width index code := by
  obtain ⟨data', hwrite, hsize, hnumber⟩ := writeSlot_number hindex hcode
  refine ⟨data', hwrite, hsize, ?_, fun other hne => readSlot_apart hwrite (apart_of_ne _ hne.symm)⟩
  rw [readSlot_number (hsize ▸ hindex), hsize, hnumber,
    withDigit_self (weight_pos _ _ _) (lt_codeCount_iff.mpr hcode), UInt8.ofNat_toNat]

/-- What a slot was written in is the buffer with the slot set. -/
theorem slotSet_of_writeSlot {data data' : ByteArray} {index : Nat} {width : SlotWidth}
    {code : UInt8} (h : writeSlot data index width code = .ok data') :
    SlotSet data data' width index code := by
  obtain ⟨hindex, hcode⟩ := within_of_writeSlot h
  obtain ⟨found, hfound, hset⟩ := writeSlot_ok hindex hcode
  cases h.symm.trans hfound
  exact hset

/-! ## Buffers with the same codes -/

/-- Counted from the last slot, the weights of the slots are the powers of the number of codes. -/
theorem weight_from_last {size k : Nat} {width : SlotWidth} (h : k < slotCount size width) :
    weight size (slotCount size width - 1 - k) width = width.codeCount ^ k := by
  have hbits : 8 * size - (slotCount size width - 1 - k + 1) * width.bits = width.bits * k := by
    revert h
    cases width <;> simp only [slotCount, SlotWidth.bits] <;> omega
  rw [weight, hbits, Nat.pow_mul]
  rfl

/-- **A buffer is nothing but its slots**: no bits lie between them or behind the last one. -/
theorem eq_of_readSlot {a b : ByteArray} (width : SlotWidth) (hsize : a.size = b.size)
    (h : ∀ index, index < slotCount a.size width →
      readSlot a index width = readSlot b index width) : a = b := by
  have hpow : 256 ^ a.size = width.codeCount ^ slotCount a.size width := by
    rw [slotCount_eq, Nat.mul_comm, Nat.pow_mul]
    congr 1
    cases width <;> rfl
  refine eq_of_number hsize
    (eq_of_digits (hpow ▸ number_lt a) (hpow ▸ hsize ▸ number_lt b) fun k hk => ?_)
  have hindex : slotCount a.size width - 1 - k < slotCount a.size width := by omega
  have hread := h _ hindex
  rw [readSlot_number hindex, readSlot_number (hsize ▸ hindex), ← hsize, weight_from_last hk]
    at hread
  have hcode := congrArg UInt8.toNat (Except.ok.inj hread)
  have hdigit : ∀ n, n % width.codeCount < width.codeCount :=
    fun n => Nat.mod_lt n (codeCount_pos width)
  rwa [toNat_ofNat_code (hdigit _), toNat_ofNat_code (hdigit _)] at hcode

/-! ## Blank buffers -/

theorem slotOf_zero (width : SlotWidth) (place : Nat) : slotOf width place 0 = 0 := by
  unfold slotOf
  rw [Nat.zero_div, Nat.zero_mod]

theorem size_zeroed (capacity : UInt64) (width : SlotWidth) :
    (zeroed capacity width).size = bufferLength capacity width := size_zeros _

/-- Every slot of a blank buffer holds 0. -/
theorem readSlot_zeroed {capacity : UInt64} {width : SlotWidth} {index : Nat}
    (h : index < slotCount (bufferLength capacity width) width) :
    readSlot (zeroed capacity width) index width = .ok 0 := by
  rw [readSlot_eq_ok (by rw [size_zeroed]; exact h), zeroed, byteAt_zeros]
  simp only [UInt8.toNat_zero, slotOf_zero]
  rfl

/-! ## Lengths of buffers -/

/-- Away from the greatest number of bits, a buffer has a slot for each index below its capacity. -/
theorem le_slotCount_bufferLength {capacity : UInt64} {width : SlotWidth}
    (h : capacity.toNat * width.bits ≤ maxBits) :
    capacity.toNat ≤ slotCount (bufferLength capacity width) width := by
  rw [slotCount_eq]
  unfold bufferLength
  rw [Nat.min_eq_left h]
  cases width <;> simp only [perByte, SlotWidth.bits] <;> omega

end StatusRegistry.Bitstring

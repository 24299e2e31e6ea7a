import StatusRegistry.Proofs.Bitstring.Slots

/-!
# Slots in machine words

Slots read and written bit by bit, with each number on the way held in a machine word: one that
outgrows its word is no number, and a bit outside the buffer is no bit.  Both loops give what
reading and writing whole slots gives, so nothing outgrows its word.

* `readBits_eq`, `writeBits_eq`: what a loop has done after some of its bits;
* `read?_eq`, `write?_of_error`, `write?_of_ok`: the loops agree with `readSlot` and `writeSlot`;
* `slots_msb_first`: what reading and writing a slot does, for every buffer, width and index.
-/

set_option autoImplicit false

namespace StatusRegistry.Bitstring

open Bytes

namespace Words

/-! ## Numbers in words -/

/-- A number in a word of 64 bits. -/
def word? (n : Nat) : Option Nat := if n ≤ maxBits then some n else none

/-- A number in a word of 8 bits. -/
def byte? (n : Nat) : Option Nat := if n ≤ 255 then some n else none

/-- A difference of words, none if it is below zero. -/
def sub? (a b : Nat) : Option Nat := if b ≤ a then some (a - b) else none

/-- A bit of a buffer, the highest bit of the first byte first. -/
def bit? (data : ByteArray) (i : Nat) : Option Nat :=
  match readSlot data i .one with
  | .ok bit => some bit.toNat
  | .error _ => none

/-- The buffer with a bit set or cleared. -/
def setBit? (data : ByteArray) (i : Nat) (bit : UInt8) : Option ByteArray :=
  match writeSlot data i .one bit with
  | .ok data' => some data'
  | .error _ => none

/-! ## The loops -/

/-- The first bit of a slot; a number of bits beyond a word is not counted further. -/
def slotStart (data : ByteArray) (index : UInt64) (width : SlotWidth) :
    Option (Except CodecError Nat) :=
  let capacity := min (data.size * 8) maxBits / width.bits
  if index.toNat < capacity then do
    let start ← word? (index.toNat * width.bits)
    return .ok start
  else some (.error (.indexOutOfRange index.toNat capacity))

/-- The code in the first bits of a slot. -/
def readBits (data : ByteArray) (start : Nat) : Nat → Option Nat
  | 0 => some 0
  | count + 1 => do
    let high ← readBits data start count
    let i ← word? (start + count)
    let bit ← bit? data i
    byte? (2 * high + bit)

/-- Puts the first bits of a code of a width in the first bits of a slot. -/
def writeBits (data : ByteArray) (start : Nat) (width : SlotWidth) (code : UInt8) :
    Nat → Option ByteArray
  | 0 => some data
  | count + 1 => do
    let data' ← writeBits data start width code count
    let last ← sub? width.bits 1
    let shift ← sub? last count
    let i ← word? (start + count)
    setBit? data' i (.ofNat (code.toNat / 2 ^ shift % 2))

/-- The code in a slot; the bits of the slot are to lie in the buffer. -/
def read? (data : ByteArray) (index : UInt64) (width : SlotWidth) :
    Option (Except CodecError UInt8) := do
  match ← slotStart data index width with
  | .error e => return .error e
  | .ok start =>
    let stop ← word? (start + width.bits)
    if stop ≤ 8 * data.size then
      let code ← readBits data start width.bits
      return .ok (.ofNat code)
    else none

/-- The answer of writing a slot, and the buffer after it. -/
def write? (data : ByteArray) (index : UInt64) (width : SlotWidth) (code : UInt8) :
    Option (Except CodecError Unit × ByteArray) := do
  if width.maxCode < code.toNat then
    return (.error (.valueTooWide code.toNat width.bits), data)
  else
    match ← slotStart data index width with
    | .error e => return (.error e, data)
    | .ok start =>
      let data' ← writeBits data start width code width.bits
      return (.ok (), data')

/-! ## What the loops do -/

section
variable {data : ByteArray} {start count : Nat}

theorem word?_eq {n : Nat} (h : n ≤ maxBits) : word? n = some n := if_pos h

theorem sub?_eq {a b : Nat} (h : b ≤ a) : sub? a b = some (a - b) := if_pos h

theorem weight_one (size i : Nat) : weight size i .one = 2 ^ (8 * size - (i + 1)) := by
  rw [weight, SlotWidth.bits, Nat.mul_one]

theorem lt_slotCount_one {size i : Nat} (h : i < 8 * size) : i < slotCount size .one := by
  rwa [slotCount, SlotWidth.bits, Nat.div_one]

theorem bit?_eq {i : Nat} (h : i < 8 * data.size) :
    bit? data i = some (number data / 2 ^ (8 * data.size - (i + 1)) % 2) := by
  have hlt : number data / weight data.size i .one % SlotWidth.one.codeCount <
      SlotWidth.one.codeCount := Nat.mod_lt _ (codeCount_pos _)
  rw [bit?, readSlot_number (lt_slotCount_one h)]
  show some (UInt8.ofNat _).toNat = _
  rw [toNat_ofNat_code hlt, weight_one]
  rfl

theorem setBit?_eq {i bit : Nat} (h : i < 8 * data.size) (hbit : bit < 2) :
    ∃ data', setBit? data i (.ofNat bit) = some data' ∧ data'.size = data.size ∧
      number data' = withDigit (2 ^ (8 * data.size - (i + 1))) 2 bit (number data) := by
  have hlt : bit < SlotWidth.one.codeCount := hbit
  have hcode : (UInt8.ofNat bit).toNat = bit := toNat_ofNat_code hlt
  have hfits : (UInt8.ofNat bit).toNat ≤ SlotWidth.one.maxCode := by
    rw [hcode]
    exact lt_codeCount_iff.mp hlt
  obtain ⟨data', hwrite, hsize, hnumber⟩ := writeSlot_number (lt_slotCount_one h) hfits
  refine ⟨data', ?_, hsize, ?_⟩
  · rw [setBit?, hwrite]
  · rw [hnumber, hcode, weight_one]
    rfl

/-- After some bits of a slot, their digits have been read. -/
theorem readBits_eq (hsize : 8 * data.size ≤ maxBits) (hcount : count ≤ 8)
    (h : start + count ≤ 8 * data.size) :
    readBits data start count =
      some (number data / 2 ^ (8 * data.size - (start + count)) % 2 ^ count) := by
  induction count with
  | zero => simp [readBits, Nat.mod_one]
  | succ count ih =>
    have hhigh := ih (by omega) (by omega)
    generalize hbehind : 8 * data.size - (start + count + 1) = behind
    have hnext : 8 * data.size - (start + count) = behind + 1 := by omega
    have hcode : 2 * (number data / 2 ^ (behind + 1) % 2 ^ count) +
        number data / 2 ^ behind % 2 = number data / 2 ^ behind % 2 ^ (count + 1) := by
      rw [Nat.pow_succ' (n := count), Nat.mod_mul, Nat.pow_succ, ← Nat.div_div_eq_div_mul,
        Nat.add_comm]
    have hfits : number data / 2 ^ behind % 2 ^ (count + 1) ≤ 255 := by
      have hlt := Nat.mod_lt (number data / 2 ^ behind) (Nat.two_pow_pos (count + 1))
      have hpow : 2 ^ (count + 1) ≤ 2 ^ 8 := Nat.pow_le_pow_right (by decide) hcount
      omega
    rw [readBits, hhigh, hnext, word?_eq (by omega)]
    simp only [Option.bind_eq_bind, Option.bind_some]
    rw [bit?_eq (by omega), hbehind]
    simp only [Option.bind_some]
    rw [hcode, byte?, if_pos hfits]

/-- After some bits of a slot, they hold the first bits of the code. -/
theorem writeBits_eq {width : SlotWidth} {code : UInt8} (hsize : 8 * data.size ≤ maxBits)
    (hcode : code.toNat < width.codeCount) (hcount : count ≤ width.bits)
    (h : start + count ≤ 8 * data.size) :
    ∃ data', writeBits data start width code count = some data' ∧ data'.size = data.size ∧
      number data' = withDigit (2 ^ (8 * data.size - (start + count))) (2 ^ count)
        (code.toNat / 2 ^ (width.bits - count)) (number data) := by
  induction count with
  | zero =>
    refine ⟨data, rfl, rfl, ?_⟩
    have hzero : code.toNat / 2 ^ (width.bits - 0) = 0 := Nat.div_eq_of_lt hcode
    rw [hzero, withDigit, Nat.pow_zero, Nat.mod_one, Nat.zero_mul, Nat.sub_zero, Nat.add_zero]
  | succ count ih =>
    obtain ⟨high, hhigh, hhighSize, hnumber⟩ := ih (by omega) (by omega)
    generalize hbehind : 8 * data.size - (start + count + 1) = behind
    have hnext : 8 * data.size - (start + count) = behind + 1 := by omega
    generalize hshift : width.bits - 1 - count = shift
    have hrest : width.bits - count = shift + 1 := by omega
    have hlow : code.toNat / 2 ^ shift % 2 < 2 := Nat.mod_lt _ (by decide)
    obtain ⟨data', hset, hsetSize, hsetNumber⟩ :=
      setBit?_eq (show start + count < 8 * high.size by omega) hlow
    refine ⟨data', ?_, hsetSize.trans hhighSize, ?_⟩
    · rw [writeBits, hhigh, sub?_eq width.bits_pos]
      simp only [Option.bind_eq_bind, Option.bind_some]
      rw [sub?_eq (by omega), word?_eq (by omega), hshift]
      exact hset
    · have hbits : code.toNat / 2 ^ (shift + 1) * 2 + code.toNat / 2 ^ shift % 2 =
          code.toNat / 2 ^ shift := by
        rw [Nat.pow_succ, ← Nat.div_div_eq_div_mul, Nat.div_add_mod']
      have hdone : width.bits - (count + 1) = shift := by omega
      rw [hsetNumber, hnumber, hhighSize, hbehind, hnext, hrest, hdone, Nat.pow_succ 2 behind,
        withDigit_withDigit (Nat.two_pow_pos _) (by decide), hbits, ← Nat.pow_succ']

/-! ## Whole slots -/

variable {index : UInt64} {width : SlotWidth}

theorem capacity_eq (hsize : 8 * data.size ≤ maxBits) (width : SlotWidth) :
    min (data.size * 8) maxBits / width.bits = slotCount data.size width := by
  rw [Nat.mul_comm, Nat.min_eq_left hsize, slotCount]

theorem end_le (h : index.toNat < slotCount data.size width) :
    index.toNat * width.bits + width.bits ≤ 8 * data.size := by
  rw [← Nat.succ_mul]
  exact Nat.mul_le_of_le_div _ _ _ h

theorem slotStart_of_lt (hsize : 8 * data.size ≤ maxBits)
    (h : index.toNat < slotCount data.size width) :
    slotStart data index width = some (.ok (index.toNat * width.bits)) := by
  have hend := end_le h
  rw [slotStart, capacity_eq hsize, if_pos h, word?_eq (by omega)]
  rfl

theorem slotStart_of_le (hsize : 8 * data.size ≤ maxBits)
    (h : slotCount data.size width ≤ index.toNat) :
    slotStart data index width =
      some (.error (.indexOutOfRange index.toNat (slotCount data.size width))) := by
  rw [slotStart, capacity_eq hsize, if_neg (Nat.not_lt.mpr h)]

theorem weight_of_start (size index : Nat) (width : SlotWidth) :
    2 ^ (8 * size - (index * width.bits + width.bits)) = weight size index width := by
  rw [weight, Nat.add_one_mul index]

/-- **Bit by bit a slot reads as it does at once.** -/
theorem read?_eq (hsize : 8 * data.size ≤ maxBits) (index : UInt64) (width : SlotWidth) :
    read? data index width = some (readSlot data index.toNat width) := by
  unfold read?
  by_cases h : index.toNat < slotCount data.size width
  · have hend := end_le h
    rw [slotStart_of_lt hsize h, readSlot_number h]
    simp only [Option.bind_eq_bind, Option.bind_some]
    rw [word?_eq (by omega), readBits_eq hsize width.bits_le hend, weight_of_start]
    simp only [Option.bind_some, if_pos hend]
    rfl
  · rw [slotStart_of_le hsize (Nat.not_lt.mp h), readSlot_eq_error (Nat.not_lt.mp h)]
    rfl

/-- A write that fails leaves the buffer as it is. -/
theorem write?_of_error {code : UInt8} {e : CodecError} (hsize : 8 * data.size ≤ maxBits)
    (h : writeSlot data index.toNat width code = .error e) :
    write? data index width code = some (.error e, data) := by
  unfold write?
  obtain ⟨hcode, rfl⟩ | ⟨hcode, hindex, rfl⟩ := writeSlot_error_iff.mp h
  · rw [if_pos hcode]
    rfl
  · rw [if_neg (Nat.not_lt.mpr hcode), slotStart_of_le hsize hindex]
    rfl

/-- **Bit by bit a slot is written as it is at once.** -/
theorem write?_of_ok {data' : ByteArray} {code : UInt8} (hsize : 8 * data.size ≤ maxBits)
    (h : writeSlot data index.toNat width code = .ok data') :
    write? data index width code = some (.ok (), data') := by
  obtain ⟨hindex, hcode⟩ := within_of_writeSlot h
  obtain ⟨whole, hwhole, hwholeSize, hwholeNumber⟩ := writeSlot_number hindex hcode
  cases h.symm.trans hwhole
  obtain ⟨found, hfound, hfoundSize, hfoundNumber⟩ :=
    writeBits_eq hsize (lt_codeCount_iff.mpr hcode) (Nat.le_refl width.bits) (end_le hindex)
  have hsame : found = data' := by
    refine eq_of_number (hfoundSize.trans hwholeSize.symm) ?_
    rw [hfoundNumber, hwholeNumber, weight_of_start, Nat.sub_self, Nat.pow_zero, Nat.div_one]
    rfl
  unfold write?
  rw [if_neg (Nat.not_lt.mpr hcode), slotStart_of_lt hsize hindex]
  simp only [Option.bind_eq_bind, Option.bind_some]
  rw [hfound, hsame]
  rfl

end

end Words

/-! ## What slots do -/

/-- What reading and writing a slot of a buffer does, told by the number of the buffer. -/
structure SlotsAsDigits (data : ByteArray) (width : SlotWidth) (index : UInt64) (code : UInt8) :
    Prop where
  /-- Only a slot past the end is not read. -/
  read_error : ∀ e, readSlot data index.toNat width = .error e ↔
    8 * data.size / width.bits ≤ index.toNat ∧
      e = .indexOutOfRange index.toNat (8 * data.size / width.bits)
  /-- A slot reads as its bits in the number of the buffer. -/
  read_ok : index.toNat < 8 * data.size / width.bits →
    ∃ found, readSlot data index.toNat width = .ok found ∧
      found.toNat =
        number data / 2 ^ (8 * data.size - (index.toNat + 1) * width.bits) % 2 ^ width.bits
  /-- Only a code that does not fit and, after that, a slot past the end are not written. -/
  write_error : ∀ e, writeSlot data index.toNat width code = .error e ↔
    (2 ^ width.bits - 1 < code.toNat ∧ e = .valueTooWide code.toNat width.bits) ∨
      (code.toNat ≤ 2 ^ width.bits - 1 ∧ 8 * data.size / width.bits ≤ index.toNat ∧
        e = .indexOutOfRange index.toNat (8 * data.size / width.bits))
  /-- A slot that is written reads as its code, and slots that share no bit with it read as before,
  whatever their width. -/
  write_ok : code.toNat ≤ 2 ^ width.bits - 1 → index.toNat < 8 * data.size / width.bits →
    ∃ data', writeSlot data index.toNat width code = .ok data' ∧ data'.size = data.size ∧
      readSlot data' index.toNat width = .ok code ∧
      ∀ (other : Nat) (width' : SlotWidth), Apart index.toNat width other width' →
        readSlot data' other width' = readSlot data other width'
  /-- Bit by bit, in words that do not overflow, the slot reads the same. -/
  read_words : Words.read? data index width = some (readSlot data index.toNat width)
  /-- Bit by bit, in words that do not overflow, the same is written; a write that fails leaves
  the buffer as it was. -/
  write_words :
    (∀ data', writeSlot data index.toNat width code = .ok data' →
      Words.write? data index width code = some (.ok (), data')) ∧
    (∀ e, writeSlot data index.toNat width code = .error e →
      Words.write? data index width code = some (.error e, data))

/-- **Slots are the digits of the number of their buffer**, and no number on the way to reading or
writing one outgrows a machine word. -/
theorem slots_msb_first {data : ByteArray} (hsize : 8 * data.size < 2 ^ 64) (width : SlotWidth)
    (index : UInt64) (code : UInt8) : SlotsAsDigits data width index code := by
  have hbits : 8 * data.size ≤ maxBits := Nat.le_of_lt_succ hsize
  refine ⟨fun _ => readSlot_error_iff, fun hindex => ?_, fun _ => writeSlot_error_iff,
    fun hcode hindex => ?_, Words.read?_eq hbits index width,
    fun _ h => Words.write?_of_ok hbits h, fun _ h => Words.write?_of_error hbits h⟩
  · have hdigit : number data / weight data.size index.toNat width % width.codeCount <
        width.codeCount := Nat.mod_lt _ (codeCount_pos width)
    exact ⟨_, readSlot_number hindex, toNat_ofNat_code hdigit⟩
  · obtain ⟨data', hwrite, hset⟩ := writeSlot_ok hindex hcode
    exact ⟨data', hwrite, hset.size_eq, hset.read_self,
      fun _ _ hapart => readSlot_apart hwrite hapart⟩

theorem sample_slots_msb_first :
    8 * (ofBytes [0xA5, 0x3C]).size < 2 ^ 64 ∧ number (ofBytes [0xA5, 0x3C]) = 42300 ∧
      SlotsAsDigits (ofBytes [0xA5, 0x3C]) .four 2 9 := by
  have hsize : 8 * (ofBytes [0xA5, 0x3C]).size < 2 ^ 64 := by decide
  exact ⟨hsize, by decide, slots_msb_first hsize .four 2 9⟩

end StatusRegistry.Bitstring

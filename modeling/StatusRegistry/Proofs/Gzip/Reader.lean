import StatusRegistry.Gzip
import StatusRegistry.Proofs.Deflate.Reader
import StatusRegistry.Proofs.Gzip.Format

/-!
# The reader of members

The reader gives out the content of a member that has no defect by its rules, whatever the limit
above that content, and of no other.

* `skipText_eq_ok_iff`, `checkHeader_eq_ok_iff`: the readers of the fields of a header;
* `readHeader_eq_ok_iff`, `checkTrailer_eq_ok_iff`: header and trailer are checked in full;
* `FirstMember.expand_eq`: what the reader makes of a member without a defect, below every limit;
* `firstMember_of_expand`: whatever is read is such a member.
-/

set_option autoImplicit false

namespace StatusRegistry.Gzip

open Bytes Deflate

variable {src : ByteArray} {pos next : Nat}

/-! ## Fields -/

/-- Four bytes write a number, the low one first. -/
theorem number_four_bytes_iff {n : Nat} :
    Number src (8 * pos) 32 n ↔ pos + 4 ≤ src.size ∧ n = readLittle32 src pos := by
  rw [show (32 : Nat) = 16 + 16 from rfl, number_add_iff,
    show 8 * pos + 16 = 8 * (pos + 2) by omega, number_two_bytes_iff, number_two_bytes_iff]
  have hlow : readLittle src pos < 65536 := by
    have hfirst := (byteAt src pos).toNat_lt
    have hsecond := (byteAt src (pos + 1)).toNat_lt
    unfold readLittle
    omega
  unfold readLittle32
  omega

theorem optionally_false_iff {field : Nat → Nat → Prop} :
    Optionally false field pos next ↔ next = pos :=
  Iff.rfl

theorem optionally_true_iff {field : Nat → Nat → Prop} :
    Optionally true field pos next ↔ field pos next :=
  Iff.rfl

theorem skipExtra_eq_ok_iff {present : Bool} :
    skipExtra src present pos = .ok next ↔ Optionally present (ExtraField src) pos next := by
  unfold skipExtra
  cases present with
  | false =>
    rw [optionally_false_iff]
    simp [eq_comm]
  | true =>
    rw [optionally_true_iff, ExtraField]
    simp only [if_true, number_two_bytes_iff]
    split
    · rename_i hshort
      simp only [reduceCtorEq, false_iff]
      rintro ⟨length, ⟨hlength, rfl⟩, rfl, hnext⟩
      omega
    · rename_i hlong
      rw [Except.ok.injEq]
      constructor
      · rintro rfl
        exact ⟨_, ⟨by omega, rfl⟩, rfl, by omega⟩
      · rintro ⟨length, ⟨-, rfl⟩, rfl, -⟩
        rfl

/-- A text of at least one byte ends where the text behind that byte does. -/
theorem text_succ_iff {start length : Nat} :
    (byteAt src (start + (length + 1)) = 0 ∧ ∀ i < length + 1, byteAt src (start + i) ≠ 0) ↔
      byteAt src start ≠ 0 ∧
        byteAt src (start + 1 + length) = 0 ∧ ∀ i < length, byteAt src (start + 1 + i) ≠ 0 := by
  simp only [Nat.forall_lt_succ_left, Nat.add_zero, Nat.add_assoc, Nat.add_comm 1]
  exact and_left_comm

/-- A text is passed over iff a zero byte ends it in time. -/
theorem skipText_eq_ok_iff {left room : Nat} (hleft : left ≤ src.size) :
    skipText src left room = .ok next ↔
      ∃ length ≤ room, next = src.size - left + length + 1 ∧ next ≤ src.size ∧
        byteAt src (src.size - left + length) = 0 ∧
        ∀ i < length, byteAt src (src.size - left + i) ≠ 0 := by
  induction left generalizing room with
  | zero =>
    simp only [skipText, reduceCtorEq, false_iff]
    rintro ⟨length, -, rfl, hnext, -⟩
    omega
  | succ left ih =>
    have hstep : src.size - left = src.size - (left + 1) + 1 := by omega
    unfold skipText
    split
    · rename_i hzero
      constructor
      · intro h
        cases h
        exact ⟨0, Nat.zero_le _, by omega, by omega, hzero, nofun⟩
      · rintro ⟨length, -, rfl, -, htext⟩
        cases length with
        | zero => rw [hstep]
        | succ length => exact absurd hzero (text_succ_iff.mp htext).1
    · rename_i hfirst
      cases room with
      | zero =>
        simp only [reduceCtorEq, false_iff]
        rintro ⟨length, hlength, -, -, hzero, -⟩
        cases Nat.le_zero.mp hlength
        exact hfirst hzero
      | succ room =>
        rw [ih (Nat.le_of_succ_le hleft), hstep]
        constructor
        · rintro ⟨length, hroom, rfl, hnext, htext⟩
          exact ⟨length + 1, Nat.succ_le_succ hroom, by omega, by omega,
            text_succ_iff.mpr ⟨hfirst, htext⟩⟩
        · rintro ⟨length, hroom, rfl, hnext, htext⟩
          cases length with
          | zero => exact absurd htext.1 hfirst
          | succ length =>
            exact ⟨length, Nat.le_of_succ_le_succ hroom, by omega, by omega,
              (text_succ_iff.mp htext).2⟩

theorem skipField_eq_ok_iff {present : Bool} (hpos : pos ≤ src.size) :
    skipField src present pos = .ok next ↔
      Optionally present (TextField .reader src) pos next := by
  unfold skipField
  cases present with
  | false =>
    rw [optionally_false_iff]
    simp [eq_comm]
  | true =>
    have hstart : src.size - (src.size - pos) = pos := by omega
    rw [optionally_true_iff, if_pos rfl, skipText_eq_ok_iff (Nat.sub_le src.size pos), hstart]
    exact Iff.rfl

theorem checkHeader_eq_ok_iff {present : Bool} :
    checkHeader src present pos = .ok next ↔
      Optionally present (HeaderChecksum src) pos next := by
  unfold checkHeader
  cases present with
  | false =>
    rw [optionally_false_iff]
    simp [eq_comm]
  | true =>
    rw [optionally_true_iff, HeaderChecksum]
    simp only [if_true, Crc32.isChecksum_iff, exists_eq_left, number_two_bytes_iff]
    split
    · rename_i hshort
      simp only [reduceCtorEq, false_iff]
      omega
    · rename_i hlong
      split
      · rename_i hne
        simp only [reduceCtorEq, false_iff]
        exact fun h => hne h.1.2.symm
      · rename_i heq
        rw [Except.ok.injEq]
        constructor
        · rintro rfl
          exact ⟨⟨by omega, (Decidable.not_not.mp heq).symm⟩, rfl⟩
        · exact fun h => h.2.symm

theorem ExtraField.le_size {present : Bool} (h : Optionally present (ExtraField src) pos next)
    (hpos : pos ≤ src.size) : next ≤ src.size := by
  cases present with
  | false => exact Nat.le_trans (Nat.le_of_eq (optionally_false_iff.mp h)) hpos
  | true =>
    obtain ⟨length, -, -, hle⟩ := optionally_true_iff.mp h
    exact hle

theorem TextField.le_size {rules : Rules} {present : Bool}
    (h : Optionally present (TextField rules src) pos next) (hpos : pos ≤ src.size) :
    next ≤ src.size := by
  cases present with
  | false => exact Nat.le_trans (Nat.le_of_eq (optionally_false_iff.mp h)) hpos
  | true =>
    obtain ⟨length, -, -, hle, -⟩ := optionally_true_iff.mp h
    exact hle

/-! ## Header and trailer -/

/-- The three flags without a meaning are the highest bits of their byte. -/
theorem reserved_eq_false_iff :
    Flags.reserved ⟨(byteAt src 3).toNat⟩ = false ↔
      flag src 5 = false ∧ flag src 6 = false ∧ flag src 7 = false := by
  have hlt := (byteAt src 3).toNat_lt
  simp only [Flags.reserved, flag, Nat.testBit_eq_decide_div_mod_eq, bne_eq_false_iff_eq,
    decide_eq_false_iff_not]
  omega

/-- **A header is read iff nothing in it is defect.** -/
theorem readHeader_eq_ok_iff : readHeader src = .ok next ↔ Header .reader src next := by
  unfold readHeader
  constructor
  · intro h
    obtain ⟨hsize, h⟩ := guard_eq_ok h rfl
    obtain ⟨hfixed, h⟩ := guard_eq_ok h rfl
    simp only [ne_eq, not_or, Decidable.not_not, Bool.not_eq_true] at hfixed
    obtain ⟨hfirst, hsecond, hmethod, hflags⟩ := hfixed
    obtain ⟨extraEnd, hextra, h⟩ := bind_eq_ok_iff.mp h
    obtain ⟨nameEnd, hname, h⟩ := bind_eq_ok_iff.mp h
    obtain ⟨commentEnd, hcomment, hchecksum⟩ := bind_eq_ok_iff.mp h
    have hextra := skipExtra_eq_ok_iff.mp hextra
    have hextraEnd := ExtraField.le_size hextra (Nat.not_lt.mp hsize)
    have hname := (skipField_eq_ok_iff hextraEnd).mp hname
    exact ⟨Nat.not_lt.mp hsize, ⟨hfirst, hsecond⟩, hmethod, reserved_eq_false_iff.mp hflags,
      extraEnd, nameEnd, commentEnd, hextra, hname,
      (skipField_eq_ok_iff (TextField.le_size hname hextraEnd)).mp hcomment,
      checkHeader_eq_ok_iff.mp hchecksum⟩
  · rintro ⟨hsize, ⟨hfirst, hsecond⟩, hmethod, hflags, extraEnd, nameEnd, commentEnd, hextra, hname,
      hcomment, hchecksum⟩
    have hextraEnd := ExtraField.le_size hextra hsize
    rw [if_neg (Nat.not_lt.mpr hsize)]
    refine (if_neg ?_).trans ?_
    · simp only [ne_eq, not_or, Decidable.not_not, Bool.not_eq_true]
      exact ⟨hfirst, hsecond, hmethod, reserved_eq_false_iff.mpr hflags⟩
    · refine bind_eq_ok_iff.mpr ⟨extraEnd, skipExtra_eq_ok_iff.mpr hextra, ?_⟩
      refine bind_eq_ok_iff.mpr ⟨nameEnd, (skipField_eq_ok_iff hextraEnd).mpr hname, ?_⟩
      refine bind_eq_ok_iff.mpr ⟨commentEnd, ?_, checkHeader_eq_ok_iff.mpr hchecksum⟩
      exact (skipField_eq_ok_iff (TextField.le_size hname hextraEnd)).mpr hcomment

/-- A trailer is accepted iff it is there and belongs to the content. -/
theorem checkTrailer_eq_ok_iff {content : ByteArray} :
    checkTrailer src pos content = .ok () ↔ Trailer src pos content := by
  have htrailer : Trailer src pos content ↔ pos + 8 ≤ src.size ∧
      readLittle32 src pos = (Crc32.checksum content).toNat ∧
      readLittle32 src (pos + 4) = content.size % 4294967296 := by
    constructor
    · rintro ⟨⟨checksum, hchecksum, hnumber⟩, hlength⟩
      obtain ⟨-, rfl⟩ := number_four_bytes_iff.mp hnumber
      obtain ⟨hsize, hlength⟩ := number_four_bytes_iff.mp hlength
      exact ⟨by omega, (Crc32.isChecksum_iff _ _).mp hchecksum, hlength.symm⟩
    · rintro ⟨hsize, hchecksum, hlength⟩
      exact ⟨⟨_, (Crc32.isChecksum_iff _ _).mpr hchecksum,
        number_four_bytes_iff.mpr ⟨by omega, rfl⟩⟩,
        number_four_bytes_iff.mpr ⟨by omega, hlength.symm⟩⟩
  rw [htrailer]
  unfold checkTrailer
  constructor
  · intro h
    obtain ⟨hsize, h⟩ := guard_eq_ok h rfl
    obtain ⟨hbelongs, -⟩ := guard_eq_ok h rfl
    simp only [ne_eq, not_or, Decidable.not_not] at hbelongs
    exact ⟨Nat.not_lt.mp hsize, hbelongs⟩
  · rintro ⟨hsize, hchecksum, hlength⟩
    rw [if_neg (Nat.not_lt.mpr hsize), if_neg]
    simp only [hchecksum, hlength, ne_eq, not_true, or_self, not_false_iff]

/-! ## Members -/

/-- **What is made of a member without a defect below every limit**: its content is given out, or
it is too long. -/
theorem FirstMember.expand_eq {content : ByteArray} (h : FirstMember .reader src content)
    (limit : Nat) :
    expand limit src = if limit < content.size then .error .tooLong else .ok content := by
  obtain ⟨start, next, hheader, hdata, htrailer⟩ := h
  have hsize := hheader.size_ge
  unfold expand
  rw [if_neg (by omega), readHeader_eq_ok_iff.mpr hheader]
  simp only [Expands.inflate_eq hdata limit]
  by_cases hlong : limit < content.size
  · rw [if_pos hlong, if_pos hlong]
    rfl
  · rw [if_neg hlong, if_neg hlong]
    simp only [checkTrailer_eq_ok_iff.mpr htrailer]

/-- **A member that is read has no defect**, and its content is within the limit. -/
theorem firstMember_of_expand {content : ByteArray} {limit : Nat}
    (h : expand limit src = .ok content) :
    FirstMember .reader src content ∧ content.size ≤ limit := by
  unfold expand at h
  obtain ⟨-, h⟩ := guard_eq_ok h rfl
  split at h
  · cases h
  · rename_i start hheader
    split at h
    · cases h
    · rename_i next found hdata
      split at h
      · cases h
      · rename_i htrailer
        cases h
        obtain ⟨hexpands, hle⟩ := expands_of_inflate hdata
        exact ⟨⟨start, next, readHeader_eq_ok_iff.mp hheader, hexpands,
          checkTrailer_eq_ok_iff.mp htrailer⟩, hle⟩

end StatusRegistry.Gzip

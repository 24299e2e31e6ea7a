import StatusRegistry.Proofs.Bitstring.EncodedList
import StatusRegistry.Proofs.Gzip.Members

/-!
# Bytes behind the first member

A text may carry more than one member, or a member with other bytes behind it.  Only the first
member is read, and nothing behind it is looked at: whatever stands there, the text is read as if it
did not.  So what is read is the full content of a text just if the members behind are empty.

* `decode_member_append`: a text is read as its first member;
* `append_eq_self_iff`: the only content that joins to nothing more;
* `bytes_behind_unread`: when what is read is the full content;
* `second_member_dropped`: a text of two members of which only the first is read.
-/

set_option autoImplicit false

namespace StatusRegistry.Bitstring

/-- **A text is read as its first member**, whatever stands behind it. -/
theorem decode_member_append {m content : ByteArray} (h : Gzip.Member .reader m content)
    (r : ByteArray) (w : Wrapping) :
    decode (w.text (Base64Url.encode (m ++ r))) =
      if content.size ≤ 67108864 then .ok content else .error (.tooLarge 67108864) := by
  have hfirst : Gzip.FirstMember .reader (m ++ r) content := (Gzip.MemberUpTo.append h r).first
  have hread : Gzip.expand content.size (m ++ r) = .ok content := by
    rw [hfirst.expand_eq, if_neg (Nat.lt_irrefl _)]
  exact decode_wrapped w (Gzip.written_of_expand hread)

theorem append_eq_self_iff {a b : ByteArray} : a = a ++ b ↔ b = ByteArray.empty := by
  constructor
  · intro h
    have hsize := congrArg ByteArray.size h
    rw [ByteArray.size_append] at hsize
    exact ByteArray.size_eq_zero_iff.mp (by omega)
  · rintro rfl
    exact ByteArray.append_empty.symm

/-- **Nothing behind the first member of a text is looked at**, so a text with more behind it is
read as its full content, if it is read at all, just if all members behind are empty. -/
theorem bytes_behind_unread {m r content : ByteArray} (h : Gzip.Member .reader m content)
    (hr : r.size ≠ 0) (w : Wrapping) :
    decode (w.text (Base64Url.encode (m ++ r))) =
        (if content.size ≤ 67108864 then .ok content else .error (.tooLarge 67108864)) ∧
      ((∀ data, decode (w.text (Base64Url.encode (m ++ r))) = .ok data →
          Gzip.Members (m ++ r) data) ↔
        67108864 < content.size ∨ Gzip.Members r ByteArray.empty) := by
  have hread := decode_member_append h r w
  refine ⟨hread, ?_⟩
  rw [hread]
  by_cases hsize : content.size ≤ 67108864
  · have hall : Gzip.Members (m ++ r) content ↔ Gzip.Members r ByteArray.empty := by
      simp only [Gzip.members_append_iff h hr, append_eq_self_iff, exists_eq_right]
    simp only [if_pos hsize, Except.ok.injEq, forall_eq', hall, Nat.not_lt.mpr hsize, false_or]
  · simp only [if_neg hsize, reduceCtorEq, false_imp_iff, implies_true, Nat.not_le.mp hsize,
      true_or]

/-- A member with one byte of stored content. -/
def memberOf (byte : UInt8) : ByteArray :=
  Gzip.member (Bytes.ofBytes [byte]) (Deflate.store (Bytes.ofBytes [byte]))

theorem member_memberOf (byte : UInt8) :
    Gzip.Member .reader (memberOf byte) (Bytes.ofBytes [byte]) :=
  Gzip.member_store _

/-- A member with a byte behind it that no member begins with is read as if nothing stood there. -/
theorem sample_bytes_unread :
    decode (Wrapping.plain.text (Base64Url.encode (memberOf 0x80 ++ Bytes.ofBytes [0]))) =
      .ok (Bytes.ofBytes [0x80]) :=
  (bytes_behind_unread (member_memberOf 0x80) (r := Bytes.ofBytes [0]) (by decide) .plain).1

/-- The full content of two members is that of both, and what is read is that of the first. -/
theorem second_member_dropped :
    Gzip.Member .reader (memberOf 0x80) (Bytes.ofBytes [0x80]) ∧ (memberOf 0x01).size ≠ 0 ∧
      decode (Wrapping.plain.text (Base64Url.encode (memberOf 0x80 ++ memberOf 0x01))) =
        .ok (Bytes.ofBytes [0x80]) ∧
      Gzip.Members (memberOf 0x80 ++ memberOf 0x01)
        (Bytes.ofBytes [0x80] ++ Bytes.ofBytes [0x01]) ∧
      ¬ Gzip.Members (memberOf 0x80 ++ memberOf 0x01) (Bytes.ofBytes [0x80]) := by
  have first := member_memberOf 0x80
  have second := member_memberOf 0x01
  have hboth : Gzip.Members (memberOf 0x80 ++ memberOf 0x01)
      (Bytes.ofBytes [0x80] ++ Bytes.ofBytes [0x01]) := .more first (.one second)
  have hsize : 0 < (memberOf 0x01).size := (Gzip.Members.one second).size_pos
  refine ⟨first, Nat.ne_of_gt hsize, ?_, hboth, fun hfirst => ?_⟩
  · exact decode_member_append first (memberOf 0x01) .plain
  · exact absurd (append_eq_self_iff.mp (hfirst.unique hboth)) (by decide)

end StatusRegistry.Bitstring

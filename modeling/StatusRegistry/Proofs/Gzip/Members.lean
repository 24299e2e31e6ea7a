import StatusRegistry.Proofs.Gzip.Format

/-!
# Members one behind another

Bytes may be made up of several members, and their content is then the contents of all of them.
Where a member ends is told by its own bytes: it is the same member with any bytes behind it.  So
bytes are made up of members in one way at most.

* `Members`: bytes that are made up of members;
* `members_append_iff`: what several members are behind the first of them;
* `Members.unique`: the content of several members is determined by their bytes.
-/

set_option autoImplicit false

namespace StatusRegistry.Gzip

open Bytes Deflate

/-- Some bytes are made up of members without a defect, one behind another, with these contents
joined. -/
inductive Members : ByteArray → ByteArray → Prop where
  | one {bytes content : ByteArray} (member : Member .reader bytes content) : Members bytes content
  | more {front rest first others : ByteArray} (member : Member .reader front first)
      (behind : Members rest others) : Members (front ++ rest) (first ++ others)

variable {front rest bytes first content content' : ByteArray}

theorem MemberUpTo.size_ge {rules : Rules} {stop : Nat}
    (h : MemberUpTo rules bytes stop content) : 10 ≤ bytes.size := by
  obtain ⟨_, _, hheader, -⟩ := h
  exact hheader.size_ge

theorem Members.size_pos (h : Members bytes content) : 0 < bytes.size := by
  cases h with
  | one member => exact Nat.lt_of_lt_of_le (by decide) member.size_ge
  | more member behind =>
    rw [ByteArray.size_append]
    exact Nat.lt_of_lt_of_le (by decide) (Nat.le_add_right_of_le member.size_ge)

/-- **Behind a member, bytes are made up of members iff these are**, and the contents are joined. -/
theorem members_append_iff (h : Member .reader front first) (hrest : rest.size ≠ 0) :
    Members (front ++ rest) content ↔
      ∃ others, Members rest others ∧ content = first ++ others := by
  constructor
  · intro hmembers
    have hfront := MemberUpTo.append h rest
    generalize hbytes : front ++ rest = bytes at hmembers hfront
    cases hmembers with
    | one member =>
      have hsize := (hfront.unique member).1
      rw [← hbytes, ByteArray.size_append] at hsize
      omega
    | @more front' rest' first' others member behind =>
      obtain ⟨hsize, rfl⟩ := hfront.unique (MemberUpTo.append member rest')
      obtain ⟨rfl, rfl⟩ := append_inj hbytes hsize
      exact ⟨others, behind, rfl⟩
  · rintro ⟨others, hothers, rfl⟩
    exact .more h hothers

/-- **The content of members one behind another is determined by their bytes.** -/
theorem Members.unique (h : Members bytes content) (h' : Members bytes content') :
    content = content' := by
  induction h generalizing content' with
  | one member =>
    cases h' with
    | one member' => exact (MemberUpTo.unique member member').2
    | @more front rest _ _ member' behind =>
      have hsize := (MemberUpTo.unique member (MemberUpTo.append member' rest)).1
      have hpos := behind.size_pos
      rw [ByteArray.size_append] at hsize
      omega
  | more member behind ih =>
    obtain ⟨others, hothers, rfl⟩ :=
      (members_append_iff member (Nat.ne_of_gt behind.size_pos)).mp h'
    rw [ih hothers]

end StatusRegistry.Gzip

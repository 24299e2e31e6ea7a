import StatusRegistry.Proofs.Bytes.Crc32
import StatusRegistry.Proofs.Deflate.Behind
import StatusRegistry.Proofs.Deflate.Unique

/-!
# The format of a member

When the first member of some bytes has no defect, and what its content is: a header with the fields
that its flags announce, compressed data, and a trailer that belongs to the content.  Nothing here
knows of a limit, nor of a reader; where readers are known to differ from the format, the rule is a
parameter.

* `Rules`: the points where the format and a reader may differ;
* `ExtraField`, `TextField`, `HeaderChecksum`: the optional fields of a header, by the positions in
  front and behind;
* `FirstMember`, `MemberUpTo`, `Member`: the format of a member, in front of other bytes or with its
  end, and by itself;
* `FirstMember.mono`: what is a member by some rules is one by all rules that allow as much;
* `Disputed`, `firstMember_iff_of_not_disputed`: where the rules differ, and that only there the
  members by them do;
* `MemberUpTo.append`, `MemberUpTo.unique`: a member is the same with any bytes behind it, and bytes
  begin with one member at most.
-/

set_option autoImplicit false

namespace StatusRegistry.Gzip

open Bytes Deflate

/-! ## Rules -/

/-- What may be written, at the points where readers differ. -/
structure Rules extends Deflate.Rules where
  /-- Whether a name or a comment may be so long. -/
  text : (length : Nat) → Prop

/-- The format, in which a name or a comment goes on to the next zero byte. -/
def Rules.format : Rules := { Deflate.Rules.format with text := fun _ => True }

/-- The reader, for which a name or a comment has 65535 bytes at most. -/
def Rules.reader : Rules := { Deflate.Rules.reader with text := fun length => length ≤ 65535 }

/-- What is allowed by the one rules or by the others. -/
def Rules.either (rules rules' : Rules) : Rules :=
  { rules.toRules.either rules'.toRules with
    text := fun length => rules.text length ∨ rules'.text length }

/-- What is allowed by both rules. -/
def Rules.both (rules rules' : Rules) : Rules :=
  { rules.toRules.both rules'.toRules with
    text := fun length => rules.text length ∧ rules'.text length }

/-- Rules allow as much as others. -/
structure Rules.Within (rules rules' : Rules) : Prop extends
    Deflate.Rules.Within rules.toRules rules'.toRules where
  text : ∀ {length}, rules.text length → rules'.text length

/-! ## The format -/

/-- The flag of a header that is told by a bit of its fourth byte. -/
def flag (src : ByteArray) (i : Nat) : Bool := (byteAt src 3).toNat.testBit i

/-- A field between two positions, if it is present. -/
def Optionally (present : Bool) (field : Nat → Nat → Prop) (pos next : Nat) : Prop :=
  if present then field pos next else next = pos

/-- An extra field: its length in two bytes, and as many bytes. -/
def ExtraField (src : ByteArray) (pos next : Nat) : Prop :=
  ∃ length, Number src (8 * pos) 16 length ∧ next = pos + 2 + length ∧ next ≤ src.size

/-- A name or a comment: its bytes up to the first that is zero. -/
def TextField (rules : Rules) (src : ByteArray) (pos next : Nat) : Prop :=
  ∃ length, rules.text length ∧ next = pos + length + 1 ∧ next ≤ src.size ∧
    byteAt src (pos + length) = 0 ∧ ∀ i < length, byteAt src (pos + i) ≠ 0

/-- A checksum of the header: the low half of the checksum of what is in front. -/
def HeaderChecksum (src : ByteArray) (pos next : Nat) : Prop :=
  ∃ checksum, Crc32.IsChecksum (src.extract 0 pos) checksum ∧
    Number src (8 * pos) 16 (checksum % 65536) ∧ next = pos + 2

/-- A header that ends in front of a position. -/
structure Header (rules : Rules) (src : ByteArray) (next : Nat) : Prop where
  size_ge : 10 ≤ src.size
  magic : byteAt src 0 = 0x1f ∧ byteAt src 1 = 0x8b
  method : byteAt src 2 = 8
  unreserved : flag src 5 = false ∧ flag src 6 = false ∧ flag src 7 = false
  fields : ∃ extraEnd nameEnd commentEnd,
    Optionally (flag src 2) (ExtraField src) 10 extraEnd ∧
      Optionally (flag src 3) (TextField rules src) extraEnd nameEnd ∧
      Optionally (flag src 4) (TextField rules src) nameEnd commentEnd ∧
      Optionally (flag src 1) (HeaderChecksum src) commentEnd next

/-- A trailer that belongs to a content: its checksum, and the low part of its length. -/
structure Trailer (src : ByteArray) (pos : Nat) (content : ByteArray) : Prop where
  checksum : ∃ checksum, Crc32.IsChecksum content checksum ∧ Number src (8 * pos) 32 checksum
  length : Number src (8 * (pos + 4)) 32 (content.size % 4294967296)

/-- The first member of some bytes has no defect, and this is its content. -/
def FirstMember (rules : Rules) (src content : ByteArray) : Prop :=
  ∃ start next, Header rules src start ∧ Expands rules.toRules src start next content ∧
    Trailer src next content

/-- The first member of some bytes has no defect: its content, and the position behind it. -/
def MemberUpTo (rules : Rules) (src : ByteArray) (stop : Nat) (content : ByteArray) : Prop :=
  ∃ start next, Header rules src start ∧ Expands rules.toRules src start next content ∧
    Trailer src next content ∧ stop = next + 8

/-- Some bytes are one member without a defect, and nothing else. -/
def Member (rules : Rules) (bytes content : ByteArray) : Prop :=
  MemberUpTo rules bytes bytes.size content

/-- Some bytes begin with a member by the format or by the reader's rules that is none by both: a
match reaches in front of the content, the greatest length is written with extra bits, more
distances are described than have a meaning, or a name or a comment is too long for the reader. -/
def Disputed (bytes : ByteArray) : Prop :=
  ∃ content, FirstMember (.either .format .reader) bytes content ∧
    ¬ FirstMember (.both .format .reader) bytes content

section Format

variable {rules rules' : Rules} {src content : ByteArray} {pos next stop : Nat}

theorem MemberUpTo.first (h : MemberUpTo rules src stop content) :
    FirstMember rules src content := by
  obtain ⟨start, next, hheader, hdata, htrailer, -⟩ := h
  exact ⟨start, next, hheader, hdata, htrailer⟩

/-! ## Rules that allow more -/

theorem Rules.within_either_left (rules rules' : Rules) : rules.Within (rules.either rules') :=
  ⟨Deflate.Rules.within_either_left _ _, .inl⟩

theorem Rules.within_either_right (rules rules' : Rules) : rules'.Within (rules.either rules') :=
  ⟨Deflate.Rules.within_either_right _ _, .inr⟩

theorem Rules.both_within_left (rules rules' : Rules) : (rules.both rules').Within rules :=
  ⟨Deflate.Rules.both_within_left _ _, And.left⟩

theorem Rules.both_within_right (rules rules' : Rules) : (rules.both rules').Within rules' :=
  ⟨Deflate.Rules.both_within_right _ _, And.right⟩

theorem Optionally.imp {present : Bool} {field field' : Nat → Nat → Prop}
    (h : Optionally present field pos next) (hfield : field pos next → field' pos next) :
    Optionally present field' pos next := by
  unfold Optionally at h ⊢
  split at h
  · rename_i hpresent
    rw [if_pos hpresent]
    exact hfield h
  · rename_i habsent
    rw [if_neg habsent]
    exact h

theorem TextField.mono (hrules : rules.Within rules') (h : TextField rules src pos next) :
    TextField rules' src pos next := by
  obtain ⟨length, hlength, htext⟩ := h
  exact ⟨length, hrules.text hlength, htext⟩

theorem Header.mono (hrules : rules.Within rules') (h : Header rules src next) :
    Header rules' src next := by
  obtain ⟨hsize, hmagic, hmethod, hflags, extraEnd, nameEnd, commentEnd, hextra, hname, hcomment,
    hchecksum⟩ := h
  exact ⟨hsize, hmagic, hmethod, hflags, extraEnd, nameEnd, commentEnd, hextra,
    hname.imp (TextField.mono hrules), hcomment.imp (TextField.mono hrules), hchecksum⟩

/-- **A member stays one by rules that allow as much.** -/
theorem FirstMember.mono (hrules : rules.Within rules') (h : FirstMember rules src content) :
    FirstMember rules' src content := by
  obtain ⟨start, next, hheader, hdata, htrailer⟩ := h
  exact ⟨start, next, hheader.mono hrules, hdata.mono hrules.toWithin, htrailer⟩

/-- **The reader's rules are those of the format**, except for members that are disputed. -/
theorem firstMember_iff_of_not_disputed (h : ¬ Disputed src) :
    FirstMember .format src content ↔ FirstMember .reader src content := by
  have hboth : FirstMember (.either .format .reader) src content →
      FirstMember (.both .format .reader) src content := fun hmember =>
    Classical.not_not.mp fun hnot => h ⟨content, hmember, hnot⟩
  constructor
  · intro hmember
    exact (hboth (hmember.mono (Rules.within_either_left _ _))).mono (Rules.both_within_right _ _)
  · intro hmember
    exact (hboth (hmember.mono (Rules.within_either_right _ _))).mono (Rules.both_within_left _ _)

/-! ## Bytes behind a member -/

theorem ExtraField.append (h : ExtraField src pos next) (rest : ByteArray) :
    ExtraField (src ++ rest) pos next := by
  obtain ⟨length, hlength, hnext, hsize⟩ := h
  exact ⟨length, hlength.append rest, hnext, by rw [ByteArray.size_append]; omega⟩

theorem TextField.append (h : TextField rules src pos next) (rest : ByteArray) :
    TextField rules (src ++ rest) pos next := by
  obtain ⟨length, hlength, hnext, hsize, hzero, hothers⟩ := h
  refine ⟨length, hlength, hnext, by rw [ByteArray.size_append]; omega, ?_, fun i hi => ?_⟩
  · rw [byteAt_append (by omega), hzero]
  · rw [byteAt_append (by omega)]
    exact hothers i hi

theorem HeaderChecksum.append (h : HeaderChecksum src pos next) (rest : ByteArray) :
    HeaderChecksum (src ++ rest) pos next := by
  obtain ⟨checksum, hchecksum, hnumber, hnext⟩ := h
  have hsize := (number_two_bytes_iff.mp hnumber).1
  refine ⟨checksum, ?_, hnumber.append rest, hnext⟩
  rwa [extract_append (Nat.zero_le _) (by omega)]

theorem Header.append (h : Header rules src next) (rest : ByteArray) :
    Header rules (src ++ rest) next := by
  obtain ⟨hsize, ⟨hfirst, hsecond⟩, hmethod, hflags, extraEnd, nameEnd, commentEnd, hextra, hname,
    hcomment, hchecksum⟩ := h
  have hbyte : ∀ i < 10, byteAt (src ++ rest) i = byteAt src i := fun i hi =>
    byteAt_append (by omega) rest
  have hsame : ∀ i, flag (src ++ rest) i = flag src i := fun i => by
    rw [flag, flag, hbyte 3 (by decide)]
  refine ⟨by rw [ByteArray.size_append]; omega, ⟨?_, ?_⟩, ?_, ?_, extraEnd, nameEnd, commentEnd,
    ?_⟩
  · rw [hbyte 0 (by decide), hfirst]
  · rw [hbyte 1 (by decide), hsecond]
  · rw [hbyte 2 (by decide), hmethod]
  · rw [hsame, hsame, hsame]
    exact hflags
  · rw [hsame, hsame, hsame, hsame]
    exact ⟨hextra.imp (·.append rest), hname.imp (·.append rest), hcomment.imp (·.append rest),
      hchecksum.imp (·.append rest)⟩

theorem Trailer.append (h : Trailer src pos content) (rest : ByteArray) :
    Trailer (src ++ rest) pos content := by
  obtain ⟨⟨checksum, hchecksum, hnumber⟩, hlength⟩ := h
  exact ⟨⟨checksum, hchecksum, hnumber.append rest⟩, hlength.append rest⟩

/-- **A member stays what it is with any bytes behind it.** -/
theorem MemberUpTo.append (h : MemberUpTo rules src stop content) (rest : ByteArray) :
    MemberUpTo rules (src ++ rest) stop content := by
  obtain ⟨start, next, hheader, hdata, htrailer, hstop⟩ := h
  exact ⟨start, next, hheader.append rest, hdata.append rest, htrailer.append rest, hstop⟩

/-! ## One member -/

theorem Optionally.unique {present : Bool} {field : Nat → Nat → Prop} {next' : Nat}
    (hfield : ∀ {next next'}, field pos next → field pos next' → next = next')
    (h : Optionally present field pos next) (h' : Optionally present field pos next') :
    next = next' := by
  unfold Optionally at h h'
  split at h
  · rename_i hpresent
    rw [if_pos hpresent] at h'
    exact hfield h h'
  · rename_i habsent
    rw [if_neg habsent] at h'
    exact h.trans h'.symm

theorem ExtraField.unique {next' : Nat} (h : ExtraField src pos next)
    (h' : ExtraField src pos next') : next = next' := by
  obtain ⟨length, hlength, rfl, -⟩ := h
  obtain ⟨length', hlength', rfl, -⟩ := h'
  rw [hlength.unique hlength']

theorem TextField.unique {next' : Nat} (h : TextField rules src pos next)
    (h' : TextField rules src pos next') : next = next' := by
  obtain ⟨length, -, rfl, -, hzero, hothers⟩ := h
  obtain ⟨length', -, rfl, -, hzero', hothers'⟩ := h'
  rcases Nat.lt_trichotomy length length' with hlt | rfl | hgt
  · exact absurd hzero (hothers' length hlt)
  · rfl
  · exact absurd hzero' (hothers length' hgt)

theorem HeaderChecksum.unique {next' : Nat} (h : HeaderChecksum src pos next)
    (h' : HeaderChecksum src pos next') : next = next' := by
  obtain ⟨checksum, -, -, rfl⟩ := h
  obtain ⟨checksum', -, -, rfl⟩ := h'
  rfl

theorem Header.unique {next' : Nat} (h : Header rules src next) (h' : Header rules src next') :
    next = next' := by
  obtain ⟨extraEnd, nameEnd, commentEnd, hextra, hname, hcomment, hchecksum⟩ := h.fields
  obtain ⟨extraEnd', nameEnd', commentEnd', hextra', hname', hcomment', hchecksum'⟩ := h'.fields
  cases hextra.unique ExtraField.unique hextra'
  cases hname.unique TextField.unique hname'
  cases hcomment.unique TextField.unique hcomment'
  exact hchecksum.unique HeaderChecksum.unique hchecksum'

/-- **Bytes begin with one member at most**: its end and its content are determined. -/
theorem MemberUpTo.unique {stop' : Nat} {content' : ByteArray}
    (h : MemberUpTo rules src stop content) (h' : MemberUpTo rules src stop' content') :
    stop = stop' ∧ content = content' := by
  obtain ⟨start, next, hheader, hdata, -, rfl⟩ := h
  obtain ⟨start', next', hheader', hdata', -, rfl⟩ := h'
  cases hheader.unique hheader'
  obtain ⟨rfl, rfl⟩ := hdata.unique hdata'
  exact ⟨rfl, rfl⟩

end Format

end StatusRegistry.Gzip

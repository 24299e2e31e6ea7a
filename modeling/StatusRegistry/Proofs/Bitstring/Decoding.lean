import StatusRegistry.Proofs.Bitstring.EncodedList

/-!
# Which texts are read

A text is read as a bitstring just if what it carries is a member without a defect whose content is
within the limit.  Reading ends at the first byte beyond the limit, and what was read up to there is
never given out: every content up to the limit itself has had its trailer checked.

* `Verdict`: what is to become of the bytes that a text carries;
* `verdict_of_payload`: what is made of the bytes is their verdict;
* `decode_eq_base64_iff`: when there are no bytes;
* `decode_exact`: every text has the verdict of its bytes, or carries none.
-/

set_option autoImplicit false

namespace StatusRegistry.Bitstring

open Text

/-- What is to become of bytes whose first member has no defect and a content just if this is told
of the content.  They are read if they have such a content within the limit, and only then; a longer
content is refused as such, and bytes without one are refused in one of two ways. -/
structure Verdict (isContent : ByteArray → Prop) (result : Except CodecError ByteArray) : Prop where
  ok_iff : ∀ data, result = .ok data ↔ isContent data ∧ data.size ≤ 67108864
  tooLarge_of_longer : ∀ data, isContent data → 67108864 < data.size →
    result = .error (.tooLarge 67108864)
  refused_of_defect : (¬ ∃ data, isContent data) →
    result = .error (.tooLarge 67108864) ∨ ∃ reason, result = .error (.decompress reason)

/-- A fault of the bytes is never one of the text. -/
theorem ofFault_cases (limit : Nat) (fault : Gzip.Fault) :
    ofFault limit fault = .tooLarge limit ∨ ∃ reason, ofFault limit fault = .decompress reason := by
  cases fault with
  | tooLong => exact .inl rfl
  | _ => exact .inr ⟨_, rfl⟩

/-- What is made of the bytes that a text carries, if they are read and if they are not. -/
theorem decode_of_payload {text : String} {bytes : ByteArray}
    (h : payload text = (Base64Url.encode bytes).toList) :
    (∀ data, Gzip.expand maxDecodedLength bytes = .ok data → decode text = .ok data) ∧
      ∀ fault, Gzip.expand maxDecodedLength bytes = .error fault →
        decode text = .error (ofFault maxDecodedLength fault) := by
  unfold decode
  rw [h, Base64Url.decode?_encode]
  constructor
  · intro data hexpand
    simp only [hexpand]
  · intro fault hexpand
    simp only [hexpand]

/-- **What is made of the bytes that a text carries is their verdict** by the reader's rules. -/
theorem verdict_of_payload {text : String} {bytes : ByteArray}
    (h : payload text = (Base64Url.encode bytes).toList) :
    Verdict (Gzip.FirstMember .reader bytes) (decode text) := by
  obtain ⟨hok, herror⟩ := decode_of_payload h
  have hwithin : ∀ {data}, Gzip.FirstMember .reader bytes data → data.size ≤ maxDecodedLength →
      Gzip.expand maxDecodedLength bytes = .ok data := by
    intro data hmember hle
    rw [hmember.expand_eq, if_neg (Nat.not_lt.mpr hle)]
  have hbeyond : ∀ {data}, Gzip.FirstMember .reader bytes data → maxDecodedLength < data.size →
      Gzip.expand maxDecodedLength bytes = .error .tooLong := by
    intro data hmember hlong
    rw [hmember.expand_eq, if_pos hlong]
  refine ⟨fun data => ⟨fun hread => ?_, ?_⟩, fun data hmember hlong => ?_, fun hdefect => ?_⟩
  · cases hexpand : Gzip.expand maxDecodedLength bytes with
    | ok found =>
      cases (hok found hexpand).symm.trans hread
      exact Gzip.firstMember_of_expand hexpand
    | error fault => cases (herror fault hexpand).symm.trans hread
  · rintro ⟨hmember, hle⟩
    exact hok data (hwithin hmember hle)
  · exact herror .tooLong (hbeyond hmember hlong)
  · cases hexpand : Gzip.expand maxDecodedLength bytes with
    | ok found => exact absurd ⟨found, (Gzip.firstMember_of_expand hexpand).1⟩ hdefect
    | error fault =>
      rw [herror fault hexpand]
      rcases ofFault_cases maxDecodedLength fault with hfault | ⟨reason, hfault⟩
      · exact .inl (congrArg Except.error hfault)
      · exact .inr ⟨reason, congrArg Except.error hfault⟩

/-- Where the rules are not disputed, the verdict is the same by the format. -/
theorem Verdict.format {bytes : ByteArray} {result : Except CodecError ByteArray}
    (h : Verdict (Gzip.FirstMember .reader bytes) result) (hbytes : ¬ Gzip.Disputed bytes) :
    Verdict (Gzip.FirstMember .format bytes) result := by
  have hsame : Gzip.FirstMember .format bytes = Gzip.FirstMember .reader bytes :=
    funext fun _ => propext (Gzip.firstMember_iff_of_not_disputed hbytes)
  rw [hsame]
  exact h

section Sample

open Bytes Deflate Gzip

/-- A member whose content begins with a match of three bytes. -/
def overreaching : ByteArray :=
  ofBytes [0x1f, 0x8b, 8, 0, 0, 0, 0, 0, 0, 0xff, 3, 2, 0, 0x12, 0xd9, 0x41, 0xff, 3, 0, 0, 0]

theorem word_overreaching : Codeword overreaching fixedLiteralLengths 83 (257 + 0) 90 :=
  ⟨7, by decide, by decide, by decide +kernel, rfl, by decide +kernel⟩

theorem firstMember_overreaching : FirstMember .reader overreaching (zeros 3) := by
  have hheader : Header .reader overreaching 10 :=
    ⟨by decide, by decide, by decide, by decide, 10, 10, 10, rfl, rfl, rfl, rfl⟩
  have hmatch : MatchAt .reader overreaching fixedDistanceLengths 0 90 0 ⟨3, 1⟩ 95 := by
    refine ⟨⟨90, 0, 95, ?_, ?_, ?_⟩, trivial, trivial⟩
    · exact ⟨3, 0, 0, by decide, by decide, rfl, rfl⟩
    · exact ⟨5, by decide, by decide, by decide, rfl, by decide +kernel⟩
    · exact ⟨1, 0, 0, by decide, by decide, rfl, rfl⟩
  have hcopied : Copied ByteArray.empty 1 3 (zeros 3) := ⟨by decide, by decide, by decide⟩
  have hend : Codeword overreaching fixedLiteralLengths 95 256 102 :=
    ⟨7, by decide, by decide, by decide +kernel, rfl, by decide +kernel⟩
  have hdata : Expands .reader overreaching 10 13 (zeros 3) :=
    ⟨102, .last (by decide)
      (.fixed (by decide) (.copy word_overreaching hmatch hcopied (.stop hend))), by decide⟩
  exact ⟨10, 13, hheader, hdata, checkTrailer_eq_ok_iff.mp (by decide +kernel)⟩

/-- The format has no member that begins with a match. -/
theorem not_firstMember_overreaching (data : ByteArray) :
    ¬ FirstMember .format overreaching data := by
  rintro ⟨start, next, hheader, ⟨pos, hblocks, -⟩, -⟩
  have hstart : start = 10 :=
    hheader.unique ⟨by decide, by decide, by decide, by decide, 10, 10, 10, rfl, rfl, rfl, rfl⟩
  subst hstart
  have hbody : ∀ {next content}, Block Deflate.Rules.format overreaching 81 ByteArray.empty next
      content → False := by
    intro next content hblock
    cases hblock with
    | stored kind body => exact absurd kind (by decide)
    | own kind codes body => exact absurd kind (by decide)
    | fixed kind body =>
      cases body with
      | stop word =>
        cases (word.unique isCode_fixedLiteralLengths word_overreaching).1
      | literal word isByte rest =>
        have hsymbol := (word.unique isCode_fixedLiteralLengths word_overreaching).1
        omega
      | copy word found copied rest =>
        have hreached : _ ≤ 0 := found.reached
        exact absurd found.distance_pos (Nat.not_lt.mpr hreached)
  cases hblocks with
  | last mark block => exact hbody block
  | more mark block rest => exact hbody block

/-- Where a match reaches in front of the content, the reader departs from the format: it takes the
bytes there to be zero. -/
theorem overreaching_disputed :
    Disputed overreaching ∧ decode "uH4sIAAAAAAAA_wMCABLZQf8DAAAA" = .ok (zeros 3) := by
  refine ⟨⟨zeros 3, firstMember_overreaching.mono (Rules.within_either_right _ _), fun hboth => ?_⟩,
    ?_⟩
  · exact not_firstMember_overreaching _ (hboth.mono (Rules.both_within_left _ _))
  · have hpayload : payload "uH4sIAAAAAAAA_wMCABLZQf8DAAAA" =
        (Base64Url.encode overreaching).toList := by decide
    exact ((verdict_of_payload hpayload).ok_iff _).mpr ⟨firstMember_overreaching, by decide⟩

end Sample

end StatusRegistry.Bitstring

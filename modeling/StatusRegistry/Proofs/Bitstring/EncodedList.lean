import StatusRegistry.Bitstring.EncodedList
import StatusRegistry.Proofs.Bytes.Base64Url
import StatusRegistry.Proofs.Gzip
import StatusRegistry.Proofs.Text.Ends

/-!
# Bitstrings read back from their text

The text of a bitstring has neither blanks nor padding, and its bytes never begin with the letter
in front of it.  So the reader finds the bytes whatever it is made to take off.

* `Wrapping`: what may stand around the letters that carry the bytes;
* `payload_eq_iff`: the reader takes off just that;
* `decode_wrapped`: what a member that reads back comes to as a text, whoever compressed it;
* `decode_encode`: a bitstring within the limit reads back;
* `wrapped_text_reads_back`: a bitstring is read from every text that carries it, or is too long.
-/

set_option autoImplicit false

namespace StatusRegistry.Bitstring

open Text

/-! ## What carries the bytes -/

/-- No letter of the alphabet is a blank or padding. -/
theorem letter_plain {n : Nat} (h : n < 64) :
    isBlank (Base64Url.letter n) = false ∧ (Base64Url.letter n == '=') = false := by
  have : ∀ k : Fin 64, isBlank (Base64Url.letter k.val) = false ∧
      (Base64Url.letter k.val == '=') = false := by decide
  exact this ⟨n, h⟩

theorem encode_plain {bytes : ByteArray} {c : Char}
    (h : c ∈ (Base64Url.encode bytes).toList) : isBlank c = false ∧ (c == '=') = false := by
  obtain ⟨n, hn, rfl⟩ := Base64Url.mem_encode h
  exact letter_plain hn

/-- What may stand around the letters of a text: blanks at its two ends, the letter in front or
nothing in its place, and padding. -/
structure Wrapping where
  front : String
  marked : Bool
  padding : Nat
  back : String
  blank_front : blank front = true
  blank_back : blank back = true

namespace Wrapping

/-- The letter in front, if it is there. -/
def mark (w : Wrapping) : String := if w.marked then String.singleton alphabetMark else ""

/-- The text of some letters with what stands around them. -/
def text (w : Wrapping) (body : String) : String :=
  w.front ++ (w.mark ++ body ++ String.ofList (List.replicate w.padding '=')) ++ w.back

/-- Nothing around the letters but the letter in front. -/
def plain : Wrapping := ⟨"", true, 0, "", rfl, rfl⟩

theorem text_plain (body : String) : plain.text body = String.singleton alphabetMark ++ body := by
  simp [text, plain, mark]

theorem toList_mark (w : Wrapping) :
    w.mark.toList = if w.marked then [alphabetMark] else [] := by
  unfold mark
  split
  · exact String.toList_singleton _
  · rfl

/-- A text carries some letters: they stand between the letter in front and padding, these stand
between blanks, and nothing more of the text could be any of it. -/
structure Carries (w : Wrapping) (text : String) (letters : List Char) : Prop where
  text_eq : text = w.text (String.ofList letters)
  tight : Tight (w.mark.toList ++ (letters ++ List.replicate w.padding '='))
  unmarked : w.marked = false → letters.head? ≠ some alphabetMark
  unpadded : letters.getLast? ≠ some '='

end Wrapping

/-- At most one mark is taken off. -/
theorem dropMark_eq_iff {cs rest : List Char} :
    dropMark cs = rest ↔ ∃ marked : Bool, cs = (if marked then [alphabetMark] else []) ++ rest ∧
      (marked = false → rest.head? ≠ some alphabetMark) := by
  constructor
  · rintro rfl
    cases cs with
    | nil => exact ⟨false, rfl, fun _ => nofun⟩
    | cons c cs =>
      by_cases hmark : c = alphabetMark
      · exact ⟨true, by rw [dropMark, if_pos hmark, hmark]; rfl, nofun⟩
      · have hkept : dropMark (c :: cs) = c :: cs := by rw [dropMark, if_neg hmark]
        rw [hkept]
        exact ⟨false, rfl, fun _ h => hmark (Option.some.inj h)⟩
  · rintro ⟨marked, rfl, hfirst⟩
    cases marked with
    | true =>
      show dropMark (alphabetMark :: rest) = rest
      rw [dropMark, if_pos rfl]
    | false =>
      cases rest with
      | nil => rfl
      | cons c cs =>
        show dropMark (c :: cs) = c :: cs
        rw [dropMark, if_neg fun hmark => hfirst rfl (congrArg some hmark)]

theorem toList_wrapped (w : Wrapping) (letters : List Char) :
    (w.text (String.ofList letters)).toList =
      w.front.toList ++
        ((w.mark.toList ++ (letters ++ List.replicate w.padding '=')) ++ w.back.toList) := by
  simp only [Wrapping.text, String.toList_append, String.toList_ofList, List.append_assoc]

theorem exists_wrapping {front back : List Char} (marked : Bool) (padding : Nat)
    (hfront : ∀ c ∈ front, isBlank c = true) (hback : ∀ c ∈ back, isBlank c = true) :
    ∃ w : Wrapping, w.marked = marked ∧ w.padding = padding ∧ w.front.toList = front ∧
      w.back.toList = back := by
  have hblank : ∀ {cs : List Char}, (∀ c ∈ cs, isBlank c = true) →
      blank (String.ofList cs) = true := by
    intro cs hcs
    rw [blank, String.toList_ofList]
    exact List.all_eq_true.mpr hcs
  exact ⟨⟨String.ofList front, marked, padding, String.ofList back, hblank hfront, hblank hback⟩,
    rfl, rfl, String.toList_ofList, String.toList_ofList⟩

/-- **The reader takes off just what stands around the letters of a text.** -/
theorem payload_eq_iff {text : String} {letters : List Char} :
    payload text = letters ↔ ∃ w : Wrapping, w.Carries text letters := by
  constructor
  · intro h
    obtain ⟨padding, hpadded, hpadding, hlast⟩ := dropEnd_eq_iff.mp h
    obtain ⟨front, back, htext, hfront, hback, htight⟩ :=
      trim_eq_iff.mp (Eq.refl (trim text.toList))
    obtain ⟨n, rfl⟩ : ∃ n, padding = List.replicate n '=' :=
      ⟨_, List.eq_replicate_iff.mpr ⟨rfl, fun c hc => beq_iff_eq.mp (hpadding c hc)⟩⟩
    have hunpadded : letters.getLast? ≠ some '=' := fun hend => absurd (hlast _ hend) (by decide)
    obtain ⟨marked, hcore, hfirst⟩ := dropMark_eq_iff.mp hpadded
    obtain ⟨w, hmarked, rfl, rfl, rfl⟩ := exists_wrapping marked n hfront hback
    rw [hcore, ← hmarked, ← w.toList_mark] at htext htight
    refine ⟨w, ?_, htight, fun hnone hhead => hfirst (hmarked.symm.trans hnone) ?_, hunpadded⟩
    · rw [← String.toList_inj, toList_wrapped, htext]
    · rw [List.head?_append, hhead]
      rfl
  · rintro ⟨w, rfl, htight, hunmarked, hunpadded⟩
    have hcore : trim (w.text (String.ofList letters)).toList =
        w.mark.toList ++ (letters ++ List.replicate w.padding '=') :=
      trim_eq_iff.mpr ⟨_, _, toList_wrapped w letters, List.all_eq_true.mp w.blank_front,
        List.all_eq_true.mp w.blank_back, htight⟩
    have hbody : dropMark (trim (w.text (String.ofList letters)).toList) =
        letters ++ List.replicate w.padding '=' := by
      refine dropMark_eq_iff.mpr ⟨w.marked, by rw [hcore, w.toList_mark], fun hnone => ?_⟩
      have hfirst := hunmarked hnone
      cases letters with
      | nil => cases w.padding <;> nofun
      | cons c cs => exact hfirst
    refine dropEnd_eq_iff.mpr ⟨_, hbody, fun c hc => ?_, fun c hc => ?_⟩
    · exact beq_iff_eq.mpr (List.eq_of_mem_replicate hc)
    · exact beq_eq_false_iff_ne.mpr fun h => hunpadded (h ▸ hc)

/-- The letters of bytes are found whatever stands around them, if they do not begin with the letter
in front. -/
theorem payload_wrapped (w : Wrapping) {bytes : ByteArray}
    (hfirst : (Base64Url.encode bytes).toList.head? ≠ some alphabetMark) :
    payload (w.text (Base64Url.encode bytes)) = (Base64Url.encode bytes).toList := by
  refine payload_eq_iff.mpr ⟨w, ?_, tight_of_forall ?_, fun _ => hfirst, ?_⟩
  · rw [String.ofList_toList]
  · intro c hc
    rcases List.mem_append.mp hc with hc | hc
    · unfold Wrapping.mark at hc
      split at hc
      · cases List.mem_singleton.mp hc
        rfl
      · cases hc
    · rcases List.mem_append.mp hc with hc | hc
      · exact (encode_plain hc).1
      · rw [List.eq_of_mem_replicate hc]
        rfl
  · intro hlast
    exact absurd (encode_plain (List.mem_of_getLast? hlast)).2 (by decide)

/-- The letters of a member begin with the one of its first six bits. -/
theorem head?_encode_of_written {bytes data : ByteArray} (h : Gzip.Written bytes data) :
    (Base64Url.encode bytes).toList.head? = some 'H' := by
  obtain ⟨hsize, hmagic⟩ := h.magic
  have hbytes : Bytes.toBytes bytes = 0x1f :: (Bytes.toBytes bytes).drop 1 := by
    rw [← hmagic]
    exact Base64Url.drop_eq_byteAt_cons hsize
  rw [Base64Url.toList_encode, hbytes]
  match (Bytes.toBytes bytes).drop 1 with
  | [] => rfl
  | [_] => rfl
  | _ :: _ :: _ => rfl

/-! ## Reading back -/

/-- **The content of a member is read from every text that carries the member**, or is too long. -/
theorem decode_wrapped (w : Wrapping) {bytes data : ByteArray} (h : Gzip.Written bytes data) :
    decode (w.text (Base64Url.encode bytes)) =
      if data.size ≤ maxDecodedLength then .ok data else .error (.tooLarge maxDecodedLength) := by
  have hfirst : (Base64Url.encode bytes).toList.head? ≠ some alphabetMark := by
    rw [head?_encode_of_written h]
    decide
  unfold decode
  rw [payload_wrapped w hfirst, Base64Url.decode?_encode]
  simp only [Gzip.expand_limit h.reads_back maxDecodedLength]
  by_cases hle : data.size ≤ maxDecodedLength
  · rw [if_neg (Nat.not_lt.mpr hle), if_pos hle]
  · rw [if_pos (Nat.not_le.mp hle), if_neg hle]
    rfl

theorem encode_eq_text (data : ByteArray) :
    encode data = Wrapping.plain.text (Base64Url.encode (Gzip.compress data)) :=
  (Wrapping.text_plain _).symm

/-- **A bitstring within the limit reads back from its text.** -/
theorem decode_encode {data : ByteArray} (h : data.size ≤ maxDecodedLength) :
    decode (encode data) = .ok data := by
  rw [encode_eq_text, decode_wrapped Wrapping.plain (Gzip.compress_written data), if_pos h]

/-- A bitstring that is read from a text is within the limit. -/
theorem size_le_of_decode {text : String} {data : ByteArray} (h : decode text = .ok data) :
    data.size ≤ maxDecodedLength := by
  unfold decode at h
  split at h
  · cases h
  · split at h
    · rename_i hexpand
      cases h
      exact Gzip.size_le_of_expand hexpand
    · cases h

/-- A text that is not read is badly written, or what it carries is damaged or too long. -/
theorem decode_eq_error {text : String} {cause : CodecError} (h : decode text = .error cause) :
    (∃ reason, cause = .base64 reason ∨ cause = .decompress reason) ∨
      cause = .tooLarge maxDecodedLength := by
  unfold decode at h
  split at h
  · cases h
    exact .inl ⟨_, .inl rfl⟩
  · split at h
    · cases h
    · rename_i fault _
      cases h
      cases fault with
      | tooLong => exact .inr rfl
      | _ => exact .inl ⟨_, .inr rfl⟩

/-- **A bitstring is read from every text that carries it**: with or without blanks around, the
letter in front and padding behind, the reader finds the bitstring, or that it is too long.  So no
two bitstrings within the limit have the same text. -/
theorem wrapped_text_reads_back :
    (∀ data, ∃ body, encode data = String.singleton alphabetMark ++ body ∧
      ∀ w : Wrapping, decode (w.text body) =
        if data.size ≤ maxDecodedLength then .ok data else .error (.tooLarge maxDecodedLength)) ∧
    ∀ a b, a.size ≤ maxDecodedLength → b.size ≤ maxDecodedLength → encode a = encode b →
      a = b := by
  constructor
  · intro data
    exact ⟨Base64Url.encode (Gzip.compress data), rfl,
      fun w => decode_wrapped w (Gzip.compress_written data)⟩
  · intro a b ha hb htext
    have hread := decode_encode ha
    rw [htext, decode_encode hb] at hread
    cases hread
    rfl

/-- Between blanks, without the letter in front and with padding, the text of one byte is read as
that byte, and no text of another byte is the same. -/
theorem wrapped_byte_reads_back :
    (∃ body, encode (Bytes.ofBytes [0x80]) = String.singleton alphabetMark ++ body ∧
      decode ((⟨"\t ", false, 2, "\n", by decide, by decide⟩ : Wrapping).text body) =
        .ok (Bytes.ofBytes [0x80])) ∧
      encode (Bytes.ofBytes [0x80]) ≠ encode (Bytes.ofBytes [0x01]) := by
  constructor
  · obtain ⟨body, hbody, hread⟩ := wrapped_text_reads_back.1 (Bytes.ofBytes [0x80])
    exact ⟨body, hbody, hread _⟩
  · intro htext
    have hsame := wrapped_text_reads_back.2 _ _ (by decide) (by decide) htext
    have hbytes : ([0x80] : List UInt8) = [0x01] := by
      rw [← Bytes.toBytes_ofBytes [0x80], hsame, Bytes.toBytes_ofBytes]
    exact absurd hbytes (by decide)

end StatusRegistry.Bitstring

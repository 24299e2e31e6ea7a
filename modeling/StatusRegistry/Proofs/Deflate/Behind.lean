import StatusRegistry.Proofs.Deflate.Format

/-!
# Bytes behind compressed data

What is found in the format stays there, whatever bytes are put behind: nothing in it tells of bytes
behind its end.

* `MatchAt.append`, `LengthRuns.append`, `OwnCodes.append`, `Stored.append`: the parts of a block;
* `Symbols.append`, `Block.append`, `Blocks.append`: the format, by induction on what is found;
* `Expands.append`: compressed data as a whole.
-/

set_option autoImplicit false

namespace StatusRegistry.Deflate

open Bytes

variable {rules : Rules} {src : ByteArray} {literals distances : List Nat} {pos next : Nat}
  {out content : ByteArray}

/-! ## The parts of a block -/

theorem InRange.append {range : Nat → Option (Nat × Nat)} {place n : Nat}
    (h : InRange src range place pos n next) (rest : ByteArray) :
    InRange (src ++ rest) range place pos n next := by
  obtain ⟨base, extra, value, hrange, hvalue, hn, hnext⟩ := h
  exact ⟨base, extra, value, hrange, hvalue.append rest, hn, hnext⟩

theorem MatchAt.append {place size : Nat} {m : Match}
    (h : MatchAt rules src distances place pos size m next) (rest : ByteArray) :
    MatchAt rules (src ++ rest) distances place pos size m next := by
  obtain ⟨⟨behind, symbol, start, hlength, hword, hdistance⟩, hspelled, hreached⟩ := h
  exact ⟨⟨behind, symbol, start, hlength.append rest, hword.append rest, hdistance.append rest⟩,
    hspelled, hreached⟩

theorem ListedLengths.append {count : Nat} {lengths : List Nat}
    (h : ListedLengths src pos count lengths) (rest : ByteArray) :
    ListedLengths (src ++ rest) pos count lengths :=
  ⟨h.length_eq, fun symbol hsymbol hlisted => (h.listed symbol hsymbol hlisted).append rest,
    h.unlisted⟩

theorem LengthRuns.append {code lengths : List Nat} {last : Option Nat}
    (h : LengthRuns src code last pos lengths next) (rest : ByteArray) :
    LengthRuns (src ++ rest) code last pos lengths next := by
  induction h with
  | done => exact .done
  | plain word isLength others ih => exact .plain (word.append rest) isLength ih
  | repeated word repetition count others ih =>
    exact .repeated (word.append rest) repetition (count.append rest) ih

theorem OwnCodes.append (h : OwnCodes rules src pos literals distances next) (rest : ByteArray) :
    OwnCodes rules (src ++ rest) pos literals distances next := by
  obtain ⟨⟨n, hliterals, hn⟩, ⟨m, hdistances, hm⟩, hmost, ⟨k, code, hk, hlisted, hcode, hruns⟩,
    hcodes⟩ := h
  exact ⟨⟨n, hliterals.append rest, hn⟩, ⟨m, hdistances.append rest, hm⟩, hmost,
    ⟨k, code, hk.append rest, hlisted.append rest, hcode, hruns.append rest⟩, hcodes⟩

theorem Stored.append (h : Stored src pos out next content) (rest : ByteArray) :
    Stored (src ++ rest) pos out next content := by
  obtain ⟨start, length, hstart, hlength, hinverted, hbody, hcontent, hnext⟩ := h
  refine ⟨start, length, hstart, hlength.append rest, hinverted.append rest, ?_, ?_, hnext⟩
  · rw [ByteArray.size_append]
    exact Nat.le_add_right_of_le hbody
  · rw [extract_append (Nat.le_add_right _ _) hbody, hcontent]

/-! ## The format -/

theorem Symbols.append (h : Symbols rules src literals distances pos out next content)
    (rest : ByteArray) : Symbols rules (src ++ rest) literals distances pos out next content := by
  induction h with
  | stop word => exact .stop (word.append rest)
  | literal word isByte _ ih => exact .literal (word.append rest) isByte ih
  | copy word found copied _ ih => exact .copy (word.append rest) (found.append rest) copied ih

theorem Block.append (h : Block rules src pos out next content) (rest : ByteArray) :
    Block rules (src ++ rest) pos out next content := by
  cases h with
  | stored kind body => exact .stored (kind.append rest) (body.append rest)
  | fixed kind body => exact .fixed (kind.append rest) (body.append rest)
  | own kind codes body => exact .own (kind.append rest) (codes.append rest) (body.append rest)

theorem Blocks.append (h : Blocks rules src pos out next content) (rest : ByteArray) :
    Blocks rules (src ++ rest) pos out next content := by
  induction h with
  | last mark block => exact .last (mark.append rest) (block.append rest)
  | more mark block _ ih => exact .more (mark.append rest) (block.append rest) ih

/-- **Data that expands does so with any bytes behind it**, and ends at the same place. -/
theorem Expands.append {start : Nat} (h : Expands rules src start next content)
    (rest : ByteArray) : Expands rules (src ++ rest) start next content := by
  obtain ⟨pos, hblocks, hnext⟩ := h
  exact ⟨pos, hblocks.append rest, hnext⟩

end StatusRegistry.Deflate

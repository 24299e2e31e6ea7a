import Mathlib.Data.List.GetD
import StatusRegistry.Proofs.Deflate.Format

/-!
# Compressed data stands for one content

Whatever the rules, compressed data is read in one way at most: each word and each number is the
only one at its position, and what is copied is told by what stands in front.

* `Codeword.unique`, `MatchAt.unique`, `Copied.unique`, `LengthRuns.unique`, `OwnCodes.unique`: the
  parts of a block;
* `Symbols.unique`, `Block.unique`, `Blocks.unique`: the format, by induction on what is found;
* `Expands.unique`: compressed data as a whole.
-/

set_option autoImplicit false

namespace StatusRegistry.Deflate

open Bytes

variable {rules : Rules} {src : ByteArray} {pos next next' : Nat}

/-! ## Matches -/

/-- At most one word of a code stands at a position. -/
theorem Codeword.unique {sparse : Bool} {lengths : List Nat} {symbol symbol' : Nat}
    (hcode : IsCode sparse lengths) (h : Codeword src lengths pos symbol next)
    (h' : Codeword src lengths pos symbol' next') : symbol = symbol' ∧ next = next' := by
  obtain ⟨tree, htree⟩ := Option.isSome_iff_exists.mp (CodeTree.isSome_ofLengths?.mpr hcode)
  have hread := (CodeTree.read_eq_ok_iff htree).mpr h
  cases hread.symm.trans ((CodeTree.read_eq_ok_iff htree).mpr h')
  exact ⟨rfl, rfl⟩

theorem InRange.unique {range : Nat → Option (Nat × Nat)} {place n n' : Nat}
    (h : InRange src range place pos n next) (h' : InRange src range place pos n' next') :
    n = n' ∧ next = next' := by
  obtain ⟨base, extra, value, hrange, hvalue, rfl, rfl⟩ := h
  obtain ⟨base', extra', value', hrange', hvalue', rfl, rfl⟩ := h'
  cases hrange.symm.trans hrange'
  rw [hvalue.unique hvalue']
  exact ⟨rfl, rfl⟩

theorem MatchAt.unique {sparse : Bool} {distances : List Nat} {place size : Nat} {m m' : Match}
    (hcode : IsCode sparse distances) (h : MatchAt rules src distances place pos size m next)
    (h' : MatchAt rules src distances place pos size m' next') : m = m' ∧ next = next' := by
  obtain ⟨length, distance⟩ := m
  obtain ⟨length', distance'⟩ := m'
  obtain ⟨behind, symbol, start, hlength, hword, hdistance⟩ := h.fields
  obtain ⟨behind', symbol', start', hlength', hword', hdistance'⟩ := h'.fields
  obtain ⟨rfl, rfl⟩ := hlength.unique hlength'
  obtain ⟨rfl, rfl⟩ := hword.unique hcode hword'
  obtain ⟨rfl, rfl⟩ := hdistance.unique hdistance'
  exact ⟨rfl, rfl⟩

/-- The least distance is one. -/
theorem MatchAt.distance_pos {distances : List Nat} {place size : Nat} {m : Match}
    (h : MatchAt rules src distances place pos size m next) : 0 < m.distance := by
  obtain ⟨_, symbol, _, -, -, base, extra, value, hrange, -, hdistance, -⟩ := h.fields
  unfold distanceRange at hrange
  split at hrange
  · cases hrange
    omega
  · split at hrange
    · cases hrange
      omega
    · cases hrange

/-- Two ways to copy come to the same bytes, as each byte is told by those in front of it. -/
theorem Copied.unique {out longer longer' : ByteArray} {distance count : Nat}
    (hdistance : 0 < distance) (h : Copied out distance count longer)
    (h' : Copied out distance count longer') : longer = longer' := by
  refine eq_of_byteAt (h.size_eq.trans h'.size_eq.symm) fun i => ?_
  induction i using Nat.strongRecOn with
  | ind i ih =>
    intro hi
    rw [h.size_eq] at hi
    by_cases hfront : i < out.size
    · rw [h.front i hfront, h'.front i hfront]
    · obtain ⟨k, rfl⟩ : ∃ k, i = out.size + k := ⟨i - out.size, by omega⟩
      rw [h.back k (by omega), h'.back k (by omega), byteBefore, byteBefore]
      by_cases hreach : distance ≤ out.size + k
      · rw [if_pos hreach, if_pos hreach]
        exact ih _ (by omega) (by rw [h.size_eq]; omega)
      · rw [if_neg hreach, if_neg hreach]

/-- Symbols up to the end of a block stand for one content. -/
theorem Symbols.unique {sparse : Bool} {literals distances : List Nat}
    {out content content' : ByteArray} (hliterals : IsCode sparse literals)
    (hdistances : IsCode sparse distances)
    (h : Symbols rules src literals distances pos out next content)
    (h' : Symbols rules src literals distances pos out next' content') :
    next = next' ∧ content = content' := by
  induction h with
  | stop word =>
    cases h' with
    | stop word' => exact ⟨(word.unique hliterals word').2, rfl⟩
    | literal word' isByte rest' =>
      have hsymbol := (word.unique hliterals word').1
      omega
    | copy word' found copied rest' =>
      have hsymbol := (word.unique hliterals word').1
      omega
  | literal word isByte rest ih =>
    cases h' with
    | stop word' =>
      have hsymbol := (word.unique hliterals word').1
      omega
    | literal word' isByte' rest' =>
      obtain ⟨rfl, rfl⟩ := word.unique hliterals word'
      exact ih rest'
    | copy word' found copied rest' =>
      have hsymbol := (word.unique hliterals word').1
      omega
  | copy word found copied rest ih =>
    cases h' with
    | stop word' =>
      have hsymbol := (word.unique hliterals word').1
      omega
    | literal word' isByte' rest' =>
      have hsymbol := (word.unique hliterals word').1
      omega
    | copy word' found' copied' rest' =>
      obtain ⟨hsymbol, rfl⟩ := word.unique hliterals word'
      cases Nat.add_left_cancel hsymbol
      obtain ⟨rfl, rfl⟩ := found.unique hdistances found'
      cases copied.unique found.distance_pos copied'
      exact ih rest'

/-! ## Codes -/

theorem ListedLengths.unique {count : Nat} {lengths lengths' : List Nat}
    (h : ListedLengths src pos count lengths) (h' : ListedLengths src pos count lengths') :
    lengths = lengths' := by
  refine List.ext_getElem (h.length_eq.trans h'.length_eq.symm) fun symbol hi hi' => ?_
  have hsymbol : symbol < 19 := h.length_eq ▸ hi
  have hsame : lengths.getD symbol 0 = lengths'.getD symbol 0 := by
    by_cases hlisted : listedAt symbol < count
    · exact (h.listed symbol hsymbol hlisted).unique (h'.listed symbol hsymbol hlisted)
    · rw [h.unlisted symbol hsymbol (Nat.not_lt.mp hlisted),
        h'.unlisted symbol hsymbol (Nat.not_lt.mp hlisted)]
  rwa [List.getD_eq_getElem _ _ hi, List.getD_eq_getElem _ _ hi'] at hsame

theorem Repetition.ge {last : Option Nat} {symbol extra least length : Nat}
    (h : Repetition last symbol extra least length) : 16 ≤ symbol ∧ 0 < least := by
  cases h <;> decide

theorem Repetition.unique {last : Option Nat}
    {symbol extra extra' least least' length length' : Nat}
    (h : Repetition last symbol extra least length)
    (h' : Repetition last symbol extra' least' length') :
    extra = extra' ∧ least = least' ∧ length = length' := by
  cases h with
  | again isLast =>
    cases h' with
    | again isLast' =>
      cases isLast.symm.trans isLast'
      exact ⟨rfl, rfl, rfl⟩
  | zeros =>
    cases h'
    exact ⟨rfl, rfl, rfl⟩
  | manyZeros =>
    cases h'
    exact ⟨rfl, rfl, rfl⟩

/-- So many word lengths are told in one way. -/
theorem LengthRuns.unique {sparse : Bool} {code lengths lengths' : List Nat} {last : Option Nat}
    (hcode : IsCode sparse code) (h : LengthRuns src code last pos lengths next)
    (h' : LengthRuns src code last pos lengths' next')
    (hlength : lengths.length = lengths'.length) :
    lengths = lengths' ∧ next = next' := by
  induction h generalizing lengths' with
  | done =>
    cases h' with
    | done => exact ⟨rfl, rfl⟩
    | plain word' isLength' others' => cases hlength
    | repeated word' repetition' count' others' =>
      have hleast := repetition'.ge.2
      rw [List.length_nil, List.length_append, List.length_replicate] at hlength
      omega
  | plain word isLength others ih =>
    cases h' with
    | done => cases hlength
    | plain word' isLength' others' =>
      obtain ⟨rfl, rfl⟩ := word.unique hcode word'
      obtain ⟨rfl, hnext⟩ := ih others' (Nat.succ.inj hlength)
      exact ⟨rfl, hnext⟩
    | repeated word' repetition' count' others' =>
      have hsymbol := (word.unique hcode word').1
      have hge := repetition'.ge.1
      omega
  | repeated word repetition count others ih =>
    cases h' with
    | done =>
      have hleast := repetition.ge.2
      rw [List.length_nil, List.length_append, List.length_replicate] at hlength
      omega
    | plain word' isLength' others' =>
      have hsymbol := (word.unique hcode word').1
      have hge := repetition.ge.1
      omega
    | repeated word' repetition' count' others' =>
      obtain ⟨rfl, rfl⟩ := word.unique hcode word'
      obtain ⟨rfl, rfl, rfl⟩ := repetition.unique repetition'
      cases count.unique count'
      rw [List.length_append, List.length_append] at hlength
      obtain ⟨rfl, hnext⟩ := ih others' (Nat.add_left_cancel hlength)
      exact ⟨rfl, hnext⟩

theorem OwnCodes.unique {literals literals' distances distances' : List Nat}
    (h : OwnCodes rules src pos literals distances next)
    (h' : OwnCodes rules src pos literals' distances' next') :
    literals = literals' ∧ distances = distances' ∧ next = next' := by
  obtain ⟨⟨n, hn, hliterals⟩, ⟨m, hm, hdistances⟩, -, ⟨k, code, hk, hlisted, hcode, hruns⟩, -⟩ := h
  obtain ⟨⟨n', hn', hliterals'⟩, ⟨m', hm', hdistances'⟩, -,
    ⟨k', code', hk', hlisted', -, hruns'⟩, -⟩ := h'
  cases hn.unique hn'
  cases hm.unique hm'
  cases hk.unique hk'
  cases hlisted.unique hlisted'
  obtain ⟨hlengths, hnext⟩ := hruns.unique hcode hruns'
    (by rw [List.length_append, List.length_append]; omega)
  obtain ⟨rfl, rfl⟩ := List.append_inj hlengths (by omega)
  exact ⟨rfl, rfl, hnext⟩

/-! ## Blocks -/

section Blocks

variable {out content content' : ByteArray}

theorem Stored.unique (h : Stored src pos out next content)
    (h' : Stored src pos out next' content') : next = next' ∧ content = content' := by
  obtain ⟨start, length, rfl, hlength, -, -, rfl, rfl⟩ := h
  obtain ⟨start', length', rfl, hlength', -, -, rfl, rfl⟩ := h'
  cases hlength.unique hlength'
  exact ⟨rfl, rfl⟩

theorem isCode_fixedLiteralLengths : IsCode false fixedLiteralLengths :=
  .inl (by decide +kernel)

theorem isCode_fixedDistanceLengths : IsCode false fixedDistanceLengths :=
  .inl (by decide)

theorem Block.unique (h : Block rules src pos out next content)
    (h' : Block rules src pos out next' content') : next = next' ∧ content = content' := by
  cases h with
  | stored kind body =>
    cases h' with
    | stored kind' body' => exact body.unique body'
    | fixed kind' body' => cases kind.unique kind'
    | own kind' codes' body' => cases kind.unique kind'
  | fixed kind body =>
    cases h' with
    | stored kind' body' => cases kind.unique kind'
    | fixed kind' body' =>
      exact body.unique isCode_fixedLiteralLengths isCode_fixedDistanceLengths body'
    | own kind' codes' body' => cases kind.unique kind'
  | own kind codes body =>
    cases h' with
    | stored kind' body' => cases kind.unique kind'
    | fixed kind' body' => cases kind.unique kind'
    | own kind' codes' body' =>
      obtain ⟨rfl, rfl, rfl⟩ := codes.unique codes'
      exact body.unique codes.codes.1 codes.codes.2 body'

theorem Blocks.unique (h : Blocks rules src pos out next content)
    (h' : Blocks rules src pos out next' content') : next = next' ∧ content = content' := by
  induction h with
  | last mark block =>
    cases h' with
    | last mark' block' => exact block.unique block'
    | more mark' block' rest' => cases mark.unique mark'
  | more mark block rest ih =>
    cases h' with
    | last mark' block' => cases mark.unique mark'
    | more mark' block' rest' =>
      obtain ⟨rfl, rfl⟩ := block.unique block'
      exact ih rest'

/-- **Compressed data has one end and stands for one content.** -/
theorem Expands.unique {start : Nat} (h : Expands rules src start next content)
    (h' : Expands rules src start next' content') : next = next' ∧ content = content' := by
  obtain ⟨pos, hblocks, rfl⟩ := h
  obtain ⟨pos', hblocks', rfl⟩ := h'
  obtain ⟨rfl, rfl⟩ := hblocks.unique hblocks'
  exact ⟨rfl, rfl⟩

end Blocks

end StatusRegistry.Deflate

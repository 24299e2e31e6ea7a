import StatusRegistry.Proofs.Deflate.Unique
import StatusRegistry.Proofs.Steps

/-!
# The reader of compressed data

The reader finds just what is in the format by its rules: content within the limit is given out, and
beyond it reading ends with `tooLong`.

* `copied_iff`, `readMatch_eq_ok_iff`, `readCodes_eq_ok_iff`, `readStored_eq_ok_iff`: the readers of
  the parts of a block;
* `readLengths_cases`, `LengthRuns.read_eq`, `lengthRuns_of_read`: what one symbol of the word
  lengths does, and the word lengths as a whole;
* `Symbols.read_eq`, `Block.read_eq`, `Blocks.read_eq`: what the reader makes of data in the
  format, below every limit; each word takes a bit, so the bits of the data are steps enough;
* `symbols_of_read`, `block_of_read`, `blocks_of_read`: whatever is read is in the format;
* `Expands.inflate_eq`, `expands_of_inflate`: the same for the data as a whole.
-/

set_option autoImplicit false

namespace StatusRegistry.Deflate

open Bytes

variable {src : ByteArray} {limit : Nat}

/-! ## Matches -/

theorem copied_zero (out : ByteArray) (distance : Nat) : Copied out distance 0 out :=
  ⟨rfl, fun _ _ => rfl, nofun⟩

theorem byteAt_push_self (data : ByteArray) (b : UInt8) : byteAt (data.push b) data.size = b := by
  have hbytes : toBytes (data.push b) = toBytes data ++ ([b] ++ []) := toBytes_push data b
  exact byteAt_part (k := 0) hbytes Nat.zero_lt_one

theorem byteAt_push_of_lt {data : ByteArray} {i : Nat} (h : i < data.size) (b : UInt8) :
    byteAt (data.push b) i = byteAt data i := by
  rw [byteAt_eq_getD, toBytes_push, List.getElem?_append_left h, ← byteAt_eq_getD]

/-- What is copied is copied byte by byte. -/
theorem copied_copyBack {distance : Nat} (hdistance : 0 < distance) (count : Nat)
    (out : ByteArray) : Copied out distance count (copyBack distance count out) := by
  induction count generalizing out with
  | zero => exact copied_zero out distance
  | succ count ih =>
    have hcopied := ih (out.push (byteBack out distance))
    have hsize : (out.push (byteBack out distance)).size = out.size + 1 := ByteArray.size_push
    have hfront : ∀ i < out.size,
        byteAt (copyBack distance count (out.push (byteBack out distance))) i = byteAt out i := by
      intro i hi
      rw [hcopied.front i (by omega), byteAt_push_of_lt hi]
    have hfirst : byteBack out distance =
        byteBefore (copyBack distance count (out.push (byteBack out distance))) distance
          out.size := by
      unfold byteBefore
      by_cases hreach : distance ≤ out.size
      · rw [if_pos hreach, hfront _ (by omega), byteBack, if_pos hreach]
      · rw [if_neg hreach, byteBack, if_neg hreach]
    rw [copyBack]
    refine ⟨by rw [hcopied.size_eq, hsize]; omega, hfront, fun i hi => ?_⟩
    cases i with
    | zero =>
      rw [Nat.add_zero, hcopied.front out.size (by omega), byteAt_push_self, ← hfirst]
    | succ i =>
      have hback := hcopied.back i (by omega)
      rwa [hsize, Nat.add_assoc, Nat.add_comm 1] at hback

theorem copied_iff {out longer : ByteArray} {distance count : Nat} (hdistance : 0 < distance) :
    Copied out distance count longer ↔ longer = copyBack distance count out := by
  constructor
  · exact fun h => h.unique hdistance (copied_copyBack hdistance count out)
  · rintro rfl
    exact copied_copyBack hdistance count out

theorem lengthCodes_getElem? (place : Nat) : lengthCodes[place]? = lengthRange place := by
  have hsmall : ∀ place < 29, lengthCodes[place]? = lengthRange place := by decide
  by_cases h : place < 29
  · exact hsmall place h
  · rw [List.getElem?_eq_none (show lengthCodes.length ≤ place from Nat.not_lt.mp h), lengthRange,
      if_neg (by omega), if_neg (by omega), if_neg (by omega)]

theorem distanceCodes_getElem? (place : Nat) : distanceCodes[place]? = distanceRange place := by
  have hsmall : ∀ place < 30, distanceCodes[place]? = distanceRange place := by decide
  by_cases h : place < 30
  · exact hsmall place h
  · rw [List.getElem?_eq_none (show distanceCodes.length ≤ place from Nat.not_lt.mp h),
      distanceRange, if_neg (by omega), if_neg (by omega)]

theorem readExtra_eq_ok_iff {codes : List (Nat × Nat)} {range : Nat → Option (Nat × Nat)}
    (hrange : ∀ place, codes[place]? = range place) {place pos n next : Nat} :
    readExtra src codes place pos = .ok (n, next) ↔ InRange src range place pos n next := by
  unfold readExtra InRange
  rw [hrange]
  constructor
  · intro h
    split at h
    · cases h
    · rename_i base extra hfound
      split at h
      · rename_i value hbits
        cases h
        exact ⟨base, extra, value, hfound, readBits_eq_ok_iff.mp hbits, rfl, rfl⟩
      · cases h
  · rintro ⟨base, extra, value, hfound, hbits, rfl, rfl⟩
    simp only [hfound, readBits_eq_ok_iff.mpr hbits]

/-- A tree reads the words of the code with the given lengths. -/
def CodeTree.Reads (tree : CodeTree) (src : ByteArray) (lengths : List Nat) : Prop :=
  ∀ pos symbol next, tree.read src pos = .ok (symbol, next) ↔ Codeword src lengths pos symbol next

theorem CodeTree.reads_of_ofLengths? {sparse : Bool} {lengths : List Nat} {tree : CodeTree}
    (h : ofLengths? sparse lengths = some tree) (src : ByteArray) : tree.Reads src lengths :=
  fun _ _ _ => read_eq_ok_iff h

/-- **A match is read iff it is there**; the reader asks nothing of it. -/
theorem readMatch_eq_ok_iff {tree : CodeTree} {distances : List Nat}
    (hdistances : tree.Reads src distances) {place pos next : Nat} {m : Match} (size : Nat) :
    readMatch src tree (257 + place) pos = .ok (m, next) ↔
      MatchAt .reader src distances place pos size m next := by
  have hlengths := @readExtra_eq_ok_iff src _ _ lengthCodes_getElem?
  have hdistance := @readExtra_eq_ok_iff src _ _ distanceCodes_getElem?
  unfold readMatch
  rw [Nat.add_sub_cancel_left]
  constructor
  · intro h
    split at h
    · cases h
    · rename_i length behind hlength
      split at h
      · cases h
      · rename_i symbol start hword
        split at h
        · cases h
        · rename_i distance next hread
          cases h
          exact ⟨⟨behind, symbol, start, hlengths.mp hlength, (hdistances _ _ _).mp hword,
            hdistance.mp hread⟩, trivial, trivial⟩
  · rintro ⟨⟨behind, symbol, start, hlength, hword, hread⟩, -, -⟩
    simp only [hlengths.mpr hlength, (hdistances _ _ _).mpr hword, hdistance.mpr hread]

/-! ## Symbols -/

/-- A limit that content has passed is passed by what the content grows to. -/
theorem tooLong_of_shorter {α : Type} {before size : Nat} (h : before ≤ size)
    (result : Except Fault α) :
    (if limit < before then .error .tooLong
      else if limit < size then .error .tooLong else result) =
      if limit < size then .error .tooLong else result := by
  by_cases hlong : limit < before
  · rw [if_pos hlong, if_pos (by omega)]
  · rw [if_neg hlong]

section Symbols

variable {literals distances : List Nat} {literalTree distanceTree : CodeTree} {pos next : Nat}
  {out content : ByteArray}

/-- **What is made of the symbols of a block below every limit**, if there are steps for the bits
that are left. -/
theorem Symbols.read_eq (h : Symbols .reader src literals distances pos out next content)
    (hliterals : literalTree.Reads src literals) (hdistances : distanceTree.Reads src distances)
    (limit : Nat) {fuel : Nat} (hfuel : 8 * src.size ≤ pos + fuel) :
    readSymbols src literalTree distanceTree limit fuel pos out =
      if limit < content.size then .error .tooLong else .ok (next, content) := by
  induction h generalizing fuel with
  | stop word =>
    obtain ⟨-, hbit⟩ := word.advances
    obtain ⟨fuel, rfl⟩ : ∃ left, fuel = left + 1 := ⟨fuel - 1, by omega⟩
    simp only [readSymbols, (hliterals _ _ _).mpr word, Nat.lt_irrefl, if_false, if_true]
  | literal word isByte rest ih =>
    obtain ⟨hnext, hbit⟩ := word.advances
    obtain ⟨fuel, rfl⟩ : ∃ left, fuel = left + 1 := ⟨fuel - 1, by omega⟩
    have hgrows := rest.grows
    rw [ByteArray.size_push] at hgrows
    simp only [readSymbols, (hliterals _ _ _).mpr word, if_pos isByte,
      ih (show _ ≤ _ + fuel by omega)]
    exact tooLong_of_shorter (Nat.le_of_succ_le hgrows) _
  | @copy pos middle behind place next m out longer content word found copied rest ih =>
    obtain ⟨hnext, hbit⟩ := word.advances
    obtain ⟨fuel, rfl⟩ : ∃ left, fuel = left + 1 := ⟨fuel - 1, by omega⟩
    have hbehind := found.advances
    have hgrows := rest.grows
    have hlonger := (copied_iff found.distance_pos).mp copied
    rw [copied.size_eq] at hgrows
    simp only [readSymbols, (hliterals _ _ _).mpr word, if_neg (show ¬ 257 + place < 256 by omega),
      if_neg (show 257 + place ≠ 256 by omega), (readMatch_eq_ok_iff hdistances _).mpr found,
      ← hlonger, ih (show _ ≤ _ + fuel by omega)]
    exact tooLong_of_shorter (Nat.le_of_add_right_le hgrows) _

/-- **Symbols that are read are in the format**, and their content is within the limit. -/
theorem symbols_of_read (hliterals : literalTree.Reads src literals)
    (hdistances : distanceTree.Reads src distances) {fuel : Nat}
    (h : readSymbols src literalTree distanceTree limit fuel pos out = .ok (next, content)) :
    Symbols .reader src literals distances pos out next content ∧ content.size ≤ limit := by
  induction fuel generalizing pos out with
  | zero => cases h
  | succ fuel ih =>
    rw [readSymbols] at h
    obtain ⟨hsize, h⟩ := guard_eq_ok h rfl
    split at h
    · cases h
    · rename_i symbol behind hread
      have word := (hliterals _ _ _).mp hread
      split at h
      · rename_i isByte
        obtain ⟨hrest, hle⟩ := ih h
        exact ⟨.literal word isByte hrest, hle⟩
      · split at h
        · rename_i hend
          cases h
          exact ⟨.stop (hend ▸ word), Nat.not_lt.mp hsize⟩
        · obtain ⟨place, rfl⟩ : ∃ place, symbol = 257 + place := ⟨symbol - 257, by omega⟩
          split at h
          · cases h
          · rename_i m behind hmatch
            obtain ⟨hrest, hle⟩ := ih h
            have found := (readMatch_eq_ok_iff hdistances out.size).mp hmatch
            exact ⟨.copy word found (copied_copyBack found.distance_pos _ _) hrest, hle⟩

end Symbols

/-! ## Codes -/

theorem readShortLengths_eq_ok_iff {count pos : Nat} {short : List Nat} :
    readShortLengths src count pos = .ok short ↔
      short.length = count ∧ ∀ i < count, Number src (pos + 3 * i) 3 (short.getD i 0) := by
  induction count generalizing pos short with
  | zero =>
    rw [readShortLengths, Except.ok.injEq, eq_comm, List.length_eq_zero_iff]
    exact ⟨fun h => ⟨h, nofun⟩, And.left⟩
  | succ count ih =>
    rw [readShortLengths]
    constructor
    · intro h
      split at h
      · cases h
      · rename_i l hfirst
        split at h
        · rename_i rest hrest
          cases h
          obtain ⟨rfl, hnumbers⟩ := ih.mp hrest
          refine ⟨rfl, fun i hi => ?_⟩
          cases i with
          | zero => exact readBits_eq_ok_iff.mp hfirst
          | succ i =>
            have hnumber := hnumbers i (by omega)
            rwa [show pos + 3 + 3 * i = pos + 3 * (i + 1) by omega] at hnumber
        · cases h
    · rintro ⟨hlength, hnumbers⟩
      cases short with
      | nil => cases hlength
      | cons l rest =>
        have hrest : readShortLengths src count (pos + 3) = .ok rest := by
          refine ih.mpr ⟨Nat.succ.inj hlength, fun i hi => ?_⟩
          rw [show pos + 3 + 3 * i = pos + 3 * (i + 1) by omega]
          exact hnumbers (i + 1) (by omega)
        have hfirst : readBits src 3 pos = .ok l :=
          readBits_eq_ok_iff.mpr (hnumbers 0 (Nat.zero_lt_succ count))
        simp only [hfirst, hrest]

/-- What stands beside a key that occurs once. -/
theorem lookup_zip {keys values : List Nat} {i key : Nat} (hkeys : keys.Nodup)
    (hkey : keys[i]? = some key) : (keys.zip values).lookup key = values[i]? := by
  induction keys generalizing values i with
  | nil => cases hkey
  | cons k keys ih =>
    cases values with
    | nil => simp
    | cons v values =>
      cases i with
      | zero =>
        cases hkey
        simp
      | succ i =>
        have hmem : key ∈ keys := List.mem_of_getElem? hkey
        have hne : key ≠ k := fun h => (List.nodup_cons.mp hkeys).1 (h ▸ hmem)
        rw [List.zip_cons_cons, List.lookup_cons, beq_false_of_ne hne]
        exact ih (List.nodup_cons.mp hkeys).2 hkey

/-- The lengths that are listed, by their symbols. -/
theorem lookup_lengthOrder {short : List Nat} {symbol : Nat} (h : symbol < 19) :
    ((lengthOrder.zip short).lookup symbol).getD 0 = short.getD (listedAt symbol) 0 := by
  have hplace : ∀ symbol < 19, lengthOrder[listedAt symbol]? = some symbol := by decide
  rw [lookup_zip (by decide) (hplace symbol h), List.getD_eq_getElem?_getD]

/-- The word lengths of the code for word lengths are those that the reader makes of the list. -/
theorem listedLengths_iff {pos count : Nat} (hcount : count ≤ 19) {lengths : List Nat} :
    ListedLengths src pos count lengths ↔
      ∃ short, readShortLengths src count pos = .ok short ∧
        lengths = (List.range 19).map fun symbol =>
          ((lengthOrder.zip short).lookup symbol).getD 0 := by
  have hread : ∀ short symbol, symbol < 19 → ((List.range 19).map fun symbol =>
      ((lengthOrder.zip short).lookup symbol).getD 0).getD symbol 0 =
        short.getD (listedAt symbol) 0 := by
    intro short symbol hsymbol
    rw [← lookup_lengthOrder hsymbol]
    simp [hsymbol]
  constructor
  · intro h
    have horder : ∀ i < 19, lengthOrder.getD i 0 < 19 ∧ listedAt (lengthOrder.getD i 0) = i := by
      decide
    have hback : ∀ symbol < 19, lengthOrder.getD (listedAt symbol) 0 = symbol := by decide
    obtain ⟨short, hshort⟩ :
        ∃ short, short = (List.range count).map fun i => lengths.getD (lengthOrder.getD i 0) 0 :=
      ⟨_, rfl⟩
    have hget : ∀ i < count, short.getD i 0 = lengths.getD (lengthOrder.getD i 0) 0 := by
      intro i hi
      simp [hshort, hi]
    have hlength : short.length = count := by simp [hshort]
    refine ⟨short, readShortLengths_eq_ok_iff.mpr ⟨hlength, fun i hi => ?_⟩, ?_⟩
    · obtain ⟨hsymbol, hplace⟩ := horder i (by omega)
      have hnumber := h.listed _ hsymbol (by omega)
      rwa [hplace, ← hget i hi] at hnumber
    · refine List.ext_getElem (by simp [h.length_eq]) fun symbol hi hi' => ?_
      have hsymbol : symbol < 19 := h.length_eq ▸ hi
      have hfound := hread short symbol hsymbol
      rw [List.getD_eq_getElem _ _ hi'] at hfound
      rw [hfound, ← List.getD_eq_getElem _ 0 hi]
      by_cases hlisted : listedAt symbol < count
      · rw [hget _ hlisted, hback symbol hsymbol]
      · rw [h.unlisted symbol hsymbol (Nat.not_lt.mp hlisted),
          List.getD_eq_default _ _ (by omega)]
  · rintro ⟨short, hshort, rfl⟩
    obtain ⟨rfl, hnumbers⟩ := readShortLengths_eq_ok_iff.mp hshort
    refine ⟨by simp, fun symbol hsymbol hlisted => ?_, fun symbol hsymbol hlisted => ?_⟩
    · rw [hread short symbol hsymbol]
      exact hnumbers _ hlisted
    · rw [hread short symbol hsymbol, List.getD_eq_default _ _ hlisted]

section LengthRuns

variable {tree : CodeTree} {code known : List Nat} {total fuel pos next : Nat}

/-- A length that stands for itself is read. -/
theorem readLengths_plain (hcode : tree.Reads src code) (hknown : known.length < total)
    {length behind : Nat} (word : Codeword src code pos length behind) (isLength : length < 16) :
    readLengths src tree total (fuel + 1) pos known =
      readLengths src tree total fuel behind (length :: known) := by
  rw [readLengths, if_neg (by omega), if_neg (by omega)]
  simp only [(hcode _ _ _).mpr word, if_pos isLength]

/-- A repetition is read. -/
theorem readLengths_repeated (hcode : tree.Reads src code) (hknown : known.length < total)
    {symbol behind extra least n length : Nat} (word : Codeword src code pos symbol behind)
    (repetition : Repetition known.head? symbol extra least length)
    (count : Number src behind extra n) :
    readLengths src tree total (fuel + 1) pos known =
      readLengths src tree total fuel (behind + extra)
        (List.replicate (least + n) length ++ known) := by
  have hcount := readBits_eq_ok_iff.mpr count
  rw [readLengths, if_neg (by omega), if_neg (by omega)]
  cases repetition with
  | again isLast => simp [(hcode _ _ _).mpr word, isLast, hcount]
  | zeros => simp [(hcode _ _ _).mpr word, hcount]
  | manyZeros => simp [(hcode _ _ _).mpr word, hcount]

/-- A repetition is of at least one length, which is the last one behind it. -/
theorem Repetition.head?_eq {last : Option Nat} {symbol extra least length : Nat}
    (h : Repetition last symbol extra least length) (n : Nat) (known : List Nat) :
    (List.replicate (least + n) length ++ known).head? = some length := by
  have hleast := h.ge.2
  obtain ⟨m, hm⟩ : ∃ m, least + n = m + 1 := ⟨least + n - 1, by omega⟩
  rw [hm, List.replicate_succ]
  rfl

/-- **Word lengths that are there are read**, if there are steps for all of them. -/
theorem LengthRuns.read_eq {last : Option Nat} {lengths : List Nat}
    (h : LengthRuns src code last pos lengths next) (hcode : tree.Reads src code)
    (hlast : known.head? = last) (htotal : known.length + lengths.length = total)
    (hfuel : lengths.length < fuel) :
    readLengths src tree total fuel pos known = .ok (known.reverse ++ lengths, next) := by
  induction h generalizing known fuel with
  | done =>
    obtain ⟨fuel, rfl⟩ : ∃ left, fuel = left + 1 := ⟨fuel - 1, by omega⟩
    rw [List.length_nil, Nat.add_zero] at htotal
    rw [readLengths, if_neg (by omega), if_pos htotal, List.append_nil]
  | plain word isLength others ih =>
    obtain ⟨fuel, rfl⟩ : ∃ left, fuel = left + 1 := ⟨fuel - 1, by omega⟩
    rw [List.length_cons] at htotal hfuel
    rw [readLengths_plain hcode (by omega) word isLength,
      ih rfl (by rw [List.length_cons]; omega) (by omega)]
    simp
  | @repeated last pos symbol behind extra least n length next rest word repetition count others
      ih =>
    obtain ⟨fuel, rfl⟩ : ∃ left, fuel = left + 1 := ⟨fuel - 1, by omega⟩
    have hleast := repetition.ge.2
    rw [List.length_append, List.length_replicate] at htotal hfuel
    rw [readLengths_repeated hcode (by omega) word (hlast ▸ repetition) count,
      ih (repetition.head?_eq n known)
        (by rw [List.length_append, List.length_replicate]; omega) (by omega)]
    simp

/-- What one symbol is read as: the end, a length that stands for itself, or a repetition. -/
theorem readLengths_cases (hcode : tree.Reads src code) (hsymbols : code.length = 19)
    {result : List Nat × Nat} (h : readLengths src tree total (fuel + 1) pos known = .ok result) :
    known.length = total ∧ result = (known.reverse, pos) ∨
      (∃ length behind, Codeword src code pos length behind ∧ length < 16 ∧
        readLengths src tree total fuel behind (length :: known) = .ok result) ∨
      ∃ symbol behind extra least n length, Codeword src code pos symbol behind ∧
        Repetition known.head? symbol extra least length ∧ Number src behind extra n ∧
        readLengths src tree total fuel (behind + extra)
          (List.replicate (least + n) length ++ known) = .ok result := by
  rw [readLengths] at h
  obtain ⟨hfits, h⟩ := guard_eq_ok h rfl
  split at h
  · rename_i hdone
    exact .inl ⟨hdone, (Except.ok.inj h).symm⟩
  split at h
  · cases h
  rename_i symbol behind hread
  have word := (hcode _ _ _).mp hread
  split at h
  · rename_i isLength
    exact .inr (.inl ⟨symbol, behind, word, isLength, h⟩)
  have hsymbol : symbol < 19 := by
    obtain ⟨_, -, -, hlength, -⟩ := word
    exact hsymbols ▸ (List.getElem?_eq_some_iff.mp hlength).1
  refine .inr (.inr ?_)
  obtain rfl | rfl | rfl : symbol = 16 ∨ symbol = 17 ∨ symbol = 18 := by omega
  · cases hlast : known.head? with
    | none =>
      rw [hlast] at h
      cases h
    | some length =>
      simp only [hlast, ↓reduceIte, Nat.reduceEqDiff] at h
      split at h
      · cases h
      · rename_i n hbits
        exact ⟨16, behind, 2, 3, n, length, word, .again rfl, readBits_eq_ok_iff.mp hbits, h⟩
  · simp only [↓reduceIte, Nat.reduceEqDiff] at h
    split at h
    · cases h
    · rename_i n hbits
      exact ⟨17, behind, 3, 3, n, 0, word, .zeros, readBits_eq_ok_iff.mp hbits, h⟩
  · simp only [↓reduceIte, Nat.reduceEqDiff] at h
    split at h
    · cases h
    · rename_i n hbits
      exact ⟨18, behind, 7, 11, n, 0, word, .manyZeros, readBits_eq_ok_iff.mp hbits, h⟩

/-- **Word lengths that are read are there.** -/
theorem lengthRuns_of_read (hcode : tree.Reads src code) (hsymbols : code.length = 19)
    {lengths : List Nat}
    (h : readLengths src tree total fuel pos known = .ok (lengths, next)) :
    ∃ rest, LengthRuns src code known.head? pos rest next ∧ lengths = known.reverse ++ rest ∧
      lengths.length = total := by
  induction fuel generalizing pos known with
  | zero => cases h
  | succ fuel ih =>
    obtain ⟨hdone, heq⟩ | ⟨length, behind, word, isLength, h⟩ |
      ⟨symbol, behind, extra, least, n, length, word, repetition, count, h⟩ :=
        readLengths_cases hcode hsymbols h
    · cases heq
      exact ⟨[], .done, (List.append_nil _).symm, by rw [List.length_reverse]; exact hdone⟩
    · obtain ⟨rest, hruns, rfl, htotal⟩ := ih h
      refine ⟨length :: rest, .plain word isLength hruns, ?_, htotal⟩
      rw [List.reverse_cons, List.append_assoc]
      rfl
    · obtain ⟨rest, hruns, rfl, htotal⟩ := ih h
      rw [repetition.head?_eq n known] at hruns
      refine ⟨List.replicate (least + n) length ++ rest, .repeated word repetition count hruns, ?_,
        htotal⟩
      rw [List.reverse_append, List.reverse_replicate, List.append_assoc]

end LengthRuns

section OwnCodes

variable {pos next : Nat} {literalTree distanceTree : CodeTree}

/-- The codes of a block that are read are there. -/
theorem ownCodes_of_read (h : readCodes src pos = .ok (literalTree, distanceTree, next)) :
    ∃ literals distances, OwnCodes .reader src pos literals distances next ∧
      CodeTree.ofLengths? true literals = some literalTree ∧
      CodeTree.ofLengths? true distances = some distanceTree := by
  unfold readCodes at h
  obtain ⟨hlit, hliterals, h⟩ := bind_eq_ok_iff.mp h
  obtain ⟨hdist, hdistances, h⟩ := bind_eq_ok_iff.mp h
  obtain ⟨hlisted, hcount, h⟩ := bind_eq_ok_iff.mp h
  obtain ⟨hmost, h⟩ := guard_eq_ok h rfl
  obtain ⟨short, hshort, h⟩ := bind_eq_ok_iff.mp h
  have hliteralCount := readBits_eq_ok_iff.mp hliterals
  have hdistanceCount := readBits_eq_ok_iff.mp hdistances
  have hlistedCount := readBits_eq_ok_iff.mp hcount
  have hlisted19 : hlisted + 4 ≤ 19 := by
    have hlt := hlistedCount.1
    omega
  have hlengths := (listedLengths_iff hlisted19).mpr ⟨short, hshort, rfl⟩
  dsimp only at h
  split at h
  · cases h
  · rename_i code hcode
    have hreads := CodeTree.reads_of_ofLengths? hcode src
    obtain ⟨⟨lengths, behind⟩, hread, h⟩ := bind_eq_ok_iff.mp h
    obtain ⟨rest, hruns, hrest, htotal⟩ := lengthRuns_of_read hreads hlengths.length_eq hread
    rw [List.reverse_nil, List.nil_append] at hrest
    subst hrest
    dsimp only at h
    split at h
    · rename_i literalTree' distanceTree' hliteralTree hdistanceTree
      cases h
      refine ⟨_, _, ⟨⟨hlit, hliteralCount, ?_⟩, ⟨hdist, hdistanceCount, ?_⟩, ⟨?_, ?_⟩,
        ⟨hlisted, _, hlistedCount, hlengths,
          CodeTree.isSome_ofLengths?.mp (by rw [hcode]; rfl), ?_⟩,
        CodeTree.isSome_ofLengths?.mp (by rw [hliteralTree]; rfl),
        CodeTree.isSome_ofLengths?.mp (by rw [hdistanceTree]; rfl)⟩, hliteralTree, hdistanceTree⟩
      · rw [List.length_take]
        omega
      · rw [List.length_drop]
        omega
      · rw [List.length_take]
        omega
      · change _ ≤ 30
        rw [List.length_drop]
        omega
      · rw [List.take_append_drop]
        exact hruns
    · cases h

/-- The codes of a block that are there are read. -/
theorem OwnCodes.read_eq {literals distances : List Nat}
    (hcodes : OwnCodes .reader src pos literals distances next)
    (hliterals : CodeTree.ofLengths? true literals = some literalTree)
    (hdistances : CodeTree.ofLengths? true distances = some distanceTree) :
    readCodes src pos = .ok (literalTree, distanceTree, next) := by
  unfold readCodes
  obtain ⟨hlit, hlit', hliteralCount⟩ := hcodes.literalCount
  obtain ⟨hdist, hdist', hdistanceCount⟩ := hcodes.distanceCount
  obtain ⟨hlisted, code, hcount, hlengths, hcode, hruns⟩ := hcodes.lengths
  obtain ⟨hliteralMost, hdistanceMost⟩ := hcodes.most
  have hlisted19 : hlisted + 4 ≤ 19 := by
    have hlt := hcount.1
    omega
  obtain ⟨short, hshort, rfl⟩ := (listedLengths_iff hlisted19).mp hlengths
  obtain ⟨tree, htree⟩ := Option.isSome_iff_exists.mp (CodeTree.isSome_ofLengths?.mpr hcode)
  have htotal : ([] : List Nat).length + (literals ++ distances).length =
      hlit + 257 + (hdist + 1) := by
    rw [List.length_append, List.length_nil]
    omega
  have hfuel : (literals ++ distances).length < hlit + 257 + (hdist + 1) + 1 := by
    rw [List.length_append]
    omega
  have hread := hruns.read_eq (CodeTree.reads_of_ofLengths? htree src) rfl htotal hfuel
  have hfits : ¬ (286 < hlit + 257 ∨ 30 < hdist + 1) := by
    change distances.length ≤ 30 at hdistanceMost
    omega
  rw [readBits_eq_ok_iff.mpr hlit', ok_bind, readBits_eq_ok_iff.mpr hdist', ok_bind,
    readBits_eq_ok_iff.mpr hcount, ok_bind]
  refine (if_neg hfits).trans ?_
  rw [hshort, ok_bind]
  dsimp only
  simp only [htree, hread, ok_bind, List.reverse_nil, List.nil_append]
  simp only [← hliteralCount, List.take_left, List.drop_left, hliterals, hdistances]
  rfl

/-- **The codes that a block brings are read iff they are there.** -/
theorem readCodes_eq_ok_iff :
    readCodes src pos = .ok (literalTree, distanceTree, next) ↔
      ∃ literals distances, OwnCodes .reader src pos literals distances next ∧
        CodeTree.ofLengths? true literals = some literalTree ∧
        CodeTree.ofLengths? true distances = some distanceTree :=
  ⟨ownCodes_of_read, fun ⟨_, _, hcodes, hliterals, hdistances⟩ =>
    hcodes.read_eq hliterals hdistances⟩

end OwnCodes

/-! ## One block -/

/-- **A stored block is read iff it is there.** -/
theorem readStored_eq_ok_iff {pos next : Nat} {out content : ByteArray} :
    readStored src pos out = .ok (next, content) ↔ Stored src pos out next content := by
  unfold readStored Stored
  simp only [number_two_bytes_iff]
  generalize (pos + 7) / 8 = start
  constructor
  · intro h
    obtain ⟨hheader, h⟩ := guard_eq_ok h rfl
    obtain ⟨hlengths, h⟩ := guard_eq_ok h rfl
    obtain ⟨hbody, h⟩ := guard_eq_ok h rfl
    cases h
    exact ⟨start, _, rfl, ⟨by omega, rfl⟩, ⟨by omega, by omega⟩, by omega, rfl, rfl⟩
  · rintro ⟨start, length, rfl, ⟨-, rfl⟩, ⟨hheader, hinverted⟩, hbody, rfl, rfl⟩
    have hlow := (byteAt src start).toNat_lt
    have hhigh := (byteAt src (start + 1)).toNat_lt
    have hlength : readLittle src start ≤ 65535 := by
      unfold readLittle
      omega
    rw [if_neg (by omega), if_neg (by omega), if_neg (by omega)]

/-- A tree that is built for a code reads it. -/
theorem CodeTree.reads_of_isCode {lengths : List Nat} (h : IsCode false lengths)
    (src : ByteArray) : ((ofLengths? false lengths).getD .gap).Reads src lengths := by
  obtain ⟨tree, htree⟩ := Option.isSome_iff_exists.mp (isSome_ofLengths?.mpr h)
  rw [htree]
  exact reads_of_ofLengths? htree src

theorem fixedLiterals_reads (src : ByteArray) : fixedLiterals.Reads src fixedLiteralLengths := by
  have hlengths : fixedLengths = fixedLiteralLengths := by decide +kernel
  rw [fixedLiterals, hlengths]
  exact CodeTree.reads_of_isCode isCode_fixedLiteralLengths src

theorem fixedDistances_reads (src : ByteArray) :
    fixedDistances.Reads src fixedDistanceLengths := by
  have hlengths : List.replicate 32 5 = fixedDistanceLengths := by decide
  rw [fixedDistances, hlengths]
  exact CodeTree.reads_of_isCode isCode_fixedDistanceLengths src

section Block

variable {pos next : Nat} {out content : ByteArray}

/-- What is made of a block below every limit: a stored one is not checked before its end. -/
theorem Block.read_eq (h : Block .reader src pos out next content) (limit : Nat) :
    readBlock src limit pos out = .ok (next, content) ∨
      readBlock src limit pos out = .error .tooLong ∧ limit < content.size := by
  unfold readBlock
  cases h with
  | stored kind body =>
    simp only [readBits_eq_ok_iff.mpr kind, if_true]
    exact .inl (readStored_eq_ok_iff.mpr body)
  | fixed kind body =>
    simp only [readBits_eq_ok_iff.mpr kind, Nat.one_ne_zero, if_false, if_true,
      body.read_eq (fixedLiterals_reads src) (fixedDistances_reads src) limit
        (Nat.le_add_left _ _)]
    split
    · rename_i hlong
      exact .inr ⟨rfl, hlong⟩
    · exact .inl rfl
  | own kind codes body =>
    obtain ⟨literalTree, hliterals⟩ := Option.isSome_iff_exists.mp
      (CodeTree.isSome_ofLengths?.mpr codes.codes.1)
    obtain ⟨distanceTree, hdistances⟩ := Option.isSome_iff_exists.mp
      (CodeTree.isSome_ofLengths?.mpr codes.codes.2)
    have hread := readCodes_eq_ok_iff.mpr ⟨_, _, codes, hliterals, hdistances⟩
    simp only [readBits_eq_ok_iff.mpr kind, hread, if_neg (show ¬ (2 : Nat) = 0 by decide),
      if_neg (show ¬ (2 : Nat) = 1 by decide), if_true,
      body.read_eq (CodeTree.reads_of_ofLengths? hliterals src)
        (CodeTree.reads_of_ofLengths? hdistances src) limit (Nat.le_add_left _ _)]
    split
    · rename_i hlong
      exact .inr ⟨rfl, hlong⟩
    · exact .inl rfl

/-- A block that is read is in the format. -/
theorem block_of_read (h : readBlock src limit pos out = .ok (next, content)) :
    Block .reader src pos out next content := by
  unfold readBlock at h
  split at h
  · cases h
  · rename_i kind hread
    have hkind := readBits_eq_ok_iff.mp hread
    split at h
    · rename_i hzero
      exact .stored (hzero ▸ hkind) (readStored_eq_ok_iff.mp h)
    · split at h
      · rename_i hone
        exact .fixed (hone ▸ hkind)
          (symbols_of_read (fixedLiterals_reads src) (fixedDistances_reads src) h).1
      · split at h
        · rename_i htwo
          split at h
          · cases h
          · rename_i hcodes
            obtain ⟨literals, distances, codes, hliterals, hdistances⟩ :=
              readCodes_eq_ok_iff.mp hcodes
            exact .own (htwo ▸ hkind) codes
              (symbols_of_read (CodeTree.reads_of_ofLengths? hliterals src)
                (CodeTree.reads_of_ofLengths? hdistances src) h).1
        · cases h

end Block

/-! ## Blocks -/

section Blocks

variable {pos next : Nat} {out content : ByteArray}

/-- **What is made of blocks below every limit**, if there are steps for the bits that are left. -/
theorem Blocks.read_eq (h : Blocks .reader src pos out next content) (limit : Nat) {fuel : Nat}
    (hfuel : 8 * src.size ≤ pos + fuel) :
    readBlocks src limit fuel pos out =
      if limit < content.size then .error .tooLong else .ok (next, content) := by
  induction h generalizing fuel with
  | last mark block =>
    have hbit := mark.lt
    obtain ⟨fuel, rfl⟩ : ∃ left, fuel = left + 1 := ⟨fuel - 1, by omega⟩
    rcases block.read_eq limit with hread | ⟨hread, hlong⟩
    · simp only [readBlocks, bit?_eq_some_iff.mpr mark, hread, if_true]
    · simp only [readBlocks, bit?_eq_some_iff.mpr mark, hread, if_pos hlong]
  | more mark block rest ih =>
    have hbit := mark.lt
    have hnext := block.advances
    obtain ⟨fuel, rfl⟩ : ∃ left, fuel = left + 1 := ⟨fuel - 1, by omega⟩
    rcases block.read_eq limit with hread | ⟨hread, hlong⟩
    · simp only [readBlocks, bit?_eq_some_iff.mpr mark, hread, Bool.false_eq_true, if_false,
        ih (show _ ≤ _ + fuel by omega)]
      exact tooLong_of_shorter rest.grows _
    · simp only [readBlocks, bit?_eq_some_iff.mpr mark, hread,
        if_pos (Nat.lt_of_lt_of_le hlong rest.grows)]

/-- **Blocks that are read are in the format**, and their content is within the limit. -/
theorem blocks_of_read {fuel : Nat}
    (h : readBlocks src limit fuel pos out = .ok (next, content)) :
    Blocks .reader src pos out next content ∧ content.size ≤ limit := by
  induction fuel generalizing pos out with
  | zero => cases h
  | succ fuel ih =>
    rw [readBlocks] at h
    split at h
    · cases h
    · rename_i last hmark
      have mark := bit?_eq_some_iff.mp hmark
      split at h
      · cases h
      · rename_i behind part hread
        have block := block_of_read hread
        obtain ⟨hsize, h⟩ := guard_eq_ok h rfl
        cases last with
        | true =>
          cases h
          exact ⟨.last mark block, Nat.not_lt.mp hsize⟩
        | false =>
          obtain ⟨hrest, hle⟩ := ih h
          exact ⟨.more mark block hrest, hle⟩

end Blocks

/-! ## Compressed data -/

section Data

variable {start next : Nat} {content : ByteArray}

/-- **What is made of compressed data below every limit**: its content is given out, or it is too
long. -/
theorem Expands.inflate_eq (h : Expands .reader src start next content) (limit : Nat) :
    inflate src limit start =
      if limit < content.size then .error .tooLong else .ok (next, content) := by
  obtain ⟨pos, hblocks, rfl⟩ := h
  unfold inflate
  rw [hblocks.read_eq limit (Nat.le_add_left _ _)]
  by_cases hlong : limit < content.size
  · rw [if_pos hlong, if_pos hlong]
  · rw [if_neg hlong, if_neg hlong]

/-- **Data that is expanded is in the format**, and its content is within the limit. -/
theorem expands_of_inflate (h : inflate src limit start = .ok (next, content)) :
    Expands .reader src start next content ∧ content.size ≤ limit := by
  unfold inflate at h
  split at h
  · cases h
  · rename_i pos out hread
    cases h
    obtain ⟨hblocks, hle⟩ := blocks_of_read hread
    exact ⟨⟨pos, hblocks, rfl⟩, hle⟩

end Data

end StatusRegistry.Deflate

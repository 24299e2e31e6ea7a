import StatusRegistry.Proofs.Deflate.Code

/-!
# The format of compressed data

What compressed data stands for, told by itself: no reader, no limit and no tree of a code occurs
here.  Where readers are known to differ from the format, the rule is a parameter, so that both can
be told and compared.

* `Rules`: the points where the format and a reader may differ;
* `Stored`, `MatchAt`, `Copied`, `OwnCodes`: the parts of a block;
* `Symbols`, `Block`, `Blocks`, `Expands`: code words up to the end of a block, one block, blocks up
  to the last one, and compressed data as a whole, each by the positions and the content in front
  and behind;
* `Symbols.grows`, `Block.grows`, `Blocks.grows`: nothing of the content is taken back;
* `Symbols.advances`, `Block.advances`: every code word and every block takes a bit that is there;
* `Expands.mono`: what is in the format by some rules is so by all rules that allow as much.
-/

set_option autoImplicit false

namespace StatusRegistry.Deflate

open Bytes

/-! ## Rules -/

/-- What may be written, at the points where readers differ. -/
structure Rules where
  /-- Whether a match may reach so far back where so many bytes stand in front of it. -/
  reach : (distance size : Nat) → Prop
  /-- Whether a length may be written by the symbol at a place of the table. -/
  spelling : (place length : Nat) → Prop
  /-- Whether a block may describe so many distance symbols. -/
  distances : (count : Nat) → Prop

/-- The format: a match reaches back into the content, the greatest length has one symbol of its
own, and each of the 32 distance symbols may be described. -/
def Rules.format : Rules where
  reach distance size := distance ≤ size
  spelling place length := place = 28 ∨ length < 258
  distances _ := True

/-- The reader: in front of the content stand zero bytes, the greatest length may also be written
with five extra bits, and only the 30 distance symbols with a meaning may be described. -/
def Rules.reader : Rules where
  reach _ _ := True
  spelling _ _ := True
  distances count := count ≤ 30

/-- What is allowed by the one rules or by the others. -/
def Rules.either (rules rules' : Rules) : Rules where
  reach distance size := rules.reach distance size ∨ rules'.reach distance size
  spelling place length := rules.spelling place length ∨ rules'.spelling place length
  distances count := rules.distances count ∨ rules'.distances count

/-- What is allowed by both rules. -/
def Rules.both (rules rules' : Rules) : Rules where
  reach distance size := rules.reach distance size ∧ rules'.reach distance size
  spelling place length := rules.spelling place length ∧ rules'.spelling place length
  distances count := rules.distances count ∧ rules'.distances count

/-- Rules allow as much as others. -/
structure Rules.Within (rules rules' : Rules) : Prop where
  reach : ∀ {distance size}, rules.reach distance size → rules'.reach distance size
  spelling : ∀ {place length}, rules.spelling place length → rules'.spelling place length
  distances : ∀ {count}, rules.distances count → rules'.distances count

theorem Rules.within_either_left (rules rules' : Rules) : rules.Within (rules.either rules') :=
  ⟨.inl, .inl, .inl⟩

theorem Rules.within_either_right (rules rules' : Rules) : rules'.Within (rules.either rules') :=
  ⟨.inr, .inr, .inr⟩

theorem Rules.both_within_left (rules rules' : Rules) : (rules.both rules').Within rules :=
  ⟨And.left, And.left, And.left⟩

theorem Rules.both_within_right (rules rules' : Rules) : (rules.both rules').Within rules' :=
  ⟨And.right, And.right, And.right⟩

/-! ## Matches -/

/-- The numbers that the length symbols stand for, counted from the first one: the least of them,
and how many extra bits tell them apart.  Behind the first eight, four symbols in turn have one
extra bit more; the last one stands for the greatest length alone. -/
def lengthRange (place : Nat) : Option (Nat × Nat) :=
  if place < 8 then some (3 + place, 0)
  else if place < 28 then
    some (3 + (4 + place % 4) * 2 ^ ((place - 4) / 4), (place - 4) / 4)
  else if place = 28 then some (258, 0)
  else none

/-- The numbers that the distance symbols stand for: behind the first four, two symbols in turn have
one extra bit more. -/
def distanceRange (place : Nat) : Option (Nat × Nat) :=
  if place < 4 then some (1 + place, 0)
  else if place < 30 then
    some (1 + (2 + place % 2) * 2 ^ ((place - 2) / 2), (place - 2) / 2)
  else none

/-- A number of the range of a symbol, told by the extra bits between two positions. -/
def InRange (src : ByteArray) (range : Nat → Option (Nat × Nat)) (place pos n next : Nat) : Prop :=
  ∃ base extra value, range place = some (base, extra) ∧ Number src pos extra value ∧
    n = base + value ∧ next = pos + extra

/-- A match between two positions, behind the symbol of its length, where so many bytes stand in
front of what it copies. -/
structure MatchAt (rules : Rules) (src : ByteArray) (distances : List Nat) (place pos size : Nat)
    (m : Match) (next : Nat) : Prop where
  fields : ∃ behind symbol start, InRange src lengthRange place pos m.length behind ∧
    Codeword src distances behind symbol start ∧
    InRange src distanceRange symbol start m.distance next
  spelled : rules.spelling place m.length
  reached : rules.reach m.distance size

/-- The byte a distance in front of a position, zero in front of the first one. -/
def byteBefore (data : ByteArray) (distance pos : Nat) : UInt8 :=
  if distance ≤ pos then byteAt data (pos - distance) else 0

/-- So many bytes are copied from a distance back: each is the one that stands so far in front of
it, be it one of those that are copied. -/
structure Copied (out : ByteArray) (distance count : Nat) (longer : ByteArray) : Prop where
  size_eq : longer.size = out.size + count
  front : ∀ i < out.size, byteAt longer i = byteAt out i
  back : ∀ i < count,
    byteAt longer (out.size + i) = byteBefore longer distance (out.size + i)

/-- Code words up to the one that ends the block: each literal appends its byte, each match copies
from what is there. -/
inductive Symbols (rules : Rules) (src : ByteArray) (literals distances : List Nat) :
    Nat → ByteArray → Nat → ByteArray → Prop where
  | stop {pos next : Nat} {out : ByteArray} (word : Codeword src literals pos 256 next) :
      Symbols rules src literals distances pos out next out
  | literal {pos behind symbol next : Nat} {out content : ByteArray}
      (word : Codeword src literals pos symbol behind) (isByte : symbol < 256)
      (rest : Symbols rules src literals distances behind (out.push (.ofNat symbol)) next content) :
      Symbols rules src literals distances pos out next content
  | copy {pos middle behind place next : Nat} {m : Match} {out longer content : ByteArray}
      (word : Codeword src literals pos (257 + place) middle)
      (found : MatchAt rules src distances place middle out.size m behind)
      (copied : Copied out m.distance m.length longer)
      (rest : Symbols rules src literals distances behind longer next content) :
      Symbols rules src literals distances pos out next content

/-! ## Codes -/

/-- The word lengths of the fixed code of literals and lengths. -/
def fixedLiteralLengths : List Nat :=
  (List.range 288).map fun symbol =>
    if symbol < 144 then 8 else if symbol < 256 then 9 else if symbol < 280 then 7 else 8

/-- The word lengths of the fixed code of distances. -/
def fixedDistanceLengths : List Nat := (List.range 32).map fun _ => 5

/-- The place at which a block lists the word length of a symbol of the code for word lengths: first
those of the repetitions and of zero, then outwards from the middle lengths. -/
def listedAt (symbol : Nat) : Nat :=
  if symbol = 0 then 3
  else if symbol < 8 then 19 - 2 * symbol
  else if symbol < 16 then 2 * symbol - 12
  else symbol - 16

/-- The word lengths of the code for word lengths, of which so many are listed, in three bits
each. -/
structure ListedLengths (src : ByteArray) (pos count : Nat) (lengths : List Nat) : Prop where
  length_eq : lengths.length = 19
  listed : ∀ symbol < 19, listedAt symbol < count →
    Number src (pos + 3 * listedAt symbol) 3 (lengths.getD symbol 0)
  unlisted : ∀ symbol < 19, count ≤ listedAt symbol → lengths.getD symbol 0 = 0

/-- The symbols for repetitions behind a last length: how many extra bits tell the number of
repetitions, the least number, and what is repeated. -/
inductive Repetition (last : Option Nat) : (symbol extra least length : Nat) → Prop where
  | again {length : Nat} (isLast : last = some length) : Repetition last 16 2 3 length
  | zeros : Repetition last 17 3 3 0
  | manyZeros : Repetition last 18 7 11 0

/-- Word lengths in the code for word lengths, behind a last one if there is any: a length stands
for itself, or a length is repeated. -/
inductive LengthRuns (src : ByteArray) (code : List Nat) :
    Option Nat → Nat → List Nat → Nat → Prop where
  | done {last : Option Nat} {pos : Nat} : LengthRuns src code last pos [] pos
  | plain {last : Option Nat} {pos length behind next : Nat} {rest : List Nat}
      (word : Codeword src code pos length behind) (isLength : length < 16)
      (others : LengthRuns src code (some length) behind rest next) :
      LengthRuns src code last pos (length :: rest) next
  | repeated {last : Option Nat} {pos symbol behind extra least n length next : Nat}
      {rest : List Nat} (word : Codeword src code pos symbol behind)
      (repetition : Repetition last symbol extra least length) (count : Number src behind extra n)
      (others : LengthRuns src code (some length) (behind + extra) rest next) :
      LengthRuns src code last pos (List.replicate (least + n) length ++ rest) next

/-- The word lengths of the codes that a block brings along, up to a position. -/
structure OwnCodes (rules : Rules) (src : ByteArray) (pos : Nat) (literals distances : List Nat)
    (next : Nat) : Prop where
  literalCount : ∃ n, Number src pos 5 n ∧ literals.length = n + 257
  distanceCount : ∃ n, Number src (pos + 5) 5 n ∧ distances.length = n + 1
  most : literals.length ≤ 286 ∧ rules.distances distances.length
  lengths : ∃ n code, Number src (pos + 10) 4 n ∧ ListedLengths src (pos + 14) (n + 4) code ∧
    IsCode false code ∧
    LengthRuns src code none (pos + 14 + 3 * (n + 4)) (literals ++ distances) next
  codes : IsCode true literals ∧ IsCode true distances

/-! ## Blocks -/

/-- A stored block behind its header: from the next byte on its length, the same with each bit
inverted, and its bytes. -/
def Stored (src : ByteArray) (pos : Nat) (out : ByteArray) (next : Nat) (content : ByteArray) :
    Prop :=
  ∃ start length, start = (pos + 7) / 8 ∧ Number src (8 * start) 16 length ∧
    Number src (8 * (start + 2)) 16 (65535 - length) ∧ start + 4 + length ≤ src.size ∧
    content = out ++ src.extract (start + 4) (start + 4 + length) ∧
    next = 8 * (start + 4 + length)

/-- One block behind the bit that marks the last one: stored, in the fixed code, or in codes of its
own. -/
inductive Block (rules : Rules) (src : ByteArray) : Nat → ByteArray → Nat → ByteArray → Prop where
  | stored {pos next : Nat} {out content : ByteArray} (kind : Number src pos 2 0)
      (body : Stored src (pos + 2) out next content) : Block rules src pos out next content
  | fixed {pos next : Nat} {out content : ByteArray} (kind : Number src pos 2 1)
      (body : Symbols rules src fixedLiteralLengths fixedDistanceLengths (pos + 2) out next
        content) :
      Block rules src pos out next content
  | own {pos start next : Nat} {literals distances : List Nat} {out content : ByteArray}
      (kind : Number src pos 2 2) (codes : OwnCodes rules src (pos + 2) literals distances start)
      (body : Symbols rules src literals distances start out next content) :
      Block rules src pos out next content

/-- Blocks up to the one that is marked as the last. -/
inductive Blocks (rules : Rules) (src : ByteArray) : Nat → ByteArray → Nat → ByteArray → Prop where
  | last {pos next : Nat} {out content : ByteArray} (mark : BitAt src pos true)
      (block : Block rules src (pos + 1) out next content) : Blocks rules src pos out next content
  | more {pos middle next : Nat} {out part content : ByteArray} (mark : BitAt src pos false)
      (block : Block rules src (pos + 1) out middle part)
      (rest : Blocks rules src middle part next content) : Blocks rules src pos out next content

/-- The data at a byte position expands to a content and ends in front of another byte position. -/
def Expands (rules : Rules) (src : ByteArray) (start next : Nat) (content : ByteArray) : Prop :=
  ∃ pos, Blocks rules src (8 * start) ByteArray.empty pos content ∧ next = (pos + 7) / 8

/-! ## Growth -/

section Growth

variable {rules : Rules} {src : ByteArray} {literals distances : List Nat} {pos next : Nat}
  {out content : ByteArray}

theorem InRange.advances {range : Nat → Option (Nat × Nat)} {place n : Nat}
    (h : InRange src range place pos n next) : pos ≤ next := by
  obtain ⟨base, extra, value, -, -, -, rfl⟩ := h
  exact Nat.le_add_right _ _

theorem MatchAt.advances {place size : Nat} {m : Match}
    (h : MatchAt rules src distances place pos size m next) : pos ≤ next := by
  obtain ⟨behind, symbol, start, hlength, hword, hdistance⟩ := h.fields
  exact Nat.le_trans hlength.advances
    (Nat.le_trans (Nat.le_of_lt hword.advances.1) hdistance.advances)

theorem Symbols.grows (h : Symbols rules src literals distances pos out next content) :
    out.size ≤ content.size := by
  induction h with
  | stop word => exact Nat.le_refl _
  | literal word isByte rest ih =>
    rw [ByteArray.size_push] at ih
    exact Nat.le_of_succ_le ih
  | copy word found copied rest ih =>
    rw [copied.size_eq] at ih
    exact Nat.le_of_add_right_le ih

theorem Symbols.advances (h : Symbols rules src literals distances pos out next content) :
    pos ≤ next := by
  induction h with
  | stop word => exact Nat.le_of_lt word.advances.1
  | literal word isByte rest ih => exact Nat.le_trans (Nat.le_of_lt word.advances.1) ih
  | copy word found copied rest ih =>
    exact Nat.le_trans (Nat.le_of_lt word.advances.1) (Nat.le_trans found.advances ih)

theorem LengthRuns.advances {code : List Nat} {last : Option Nat} {lengths : List Nat}
    (h : LengthRuns src code last pos lengths next) : pos ≤ next := by
  induction h with
  | done => exact Nat.le_refl _
  | plain word isLength others ih => exact Nat.le_trans (Nat.le_of_lt word.advances.1) ih
  | repeated word repetition count others ih =>
    exact Nat.le_trans (Nat.le_of_lt word.advances.1) (Nat.le_of_add_right_le ih)

theorem OwnCodes.advances (h : OwnCodes rules src pos literals distances next) : pos ≤ next := by
  obtain ⟨n, code, -, -, -, hruns⟩ := h.lengths
  have hle := hruns.advances
  omega

theorem Stored.advances (h : Stored src pos out next content) : pos ≤ next := by
  obtain ⟨start, length, rfl, -, -, -, -, rfl⟩ := h
  omega

theorem Stored.grows (h : Stored src pos out next content) : out.size ≤ content.size := by
  obtain ⟨start, length, -, -, -, -, rfl, -⟩ := h
  rw [ByteArray.size_append]
  exact Nat.le_add_right _ _

theorem Block.grows (h : Block rules src pos out next content) : out.size ≤ content.size := by
  cases h with
  | stored kind body => exact body.grows
  | fixed kind body => exact body.grows
  | own kind codes body => exact body.grows

theorem Block.advances (h : Block rules src pos out next content) : pos ≤ next := by
  cases h with
  | stored kind body => exact Nat.le_of_add_right_le body.advances
  | fixed kind body => exact Nat.le_of_add_right_le body.advances
  | own kind codes body =>
    exact Nat.le_of_add_right_le (Nat.le_trans codes.advances body.advances)

theorem Blocks.grows (h : Blocks rules src pos out next content) : out.size ≤ content.size := by
  induction h with
  | last mark block => exact block.grows
  | more mark block rest ih => exact Nat.le_trans block.grows ih

end Growth

/-! ## Rules that allow more -/

section Mono

variable {rules rules' : Rules} {src : ByteArray} {pos next : Nat} {out content : ByteArray}

theorem Symbols.mono (hrules : rules.Within rules') {literals distances : List Nat}
    (h : Symbols rules src literals distances pos out next content) :
    Symbols rules' src literals distances pos out next content := by
  induction h with
  | stop word => exact .stop word
  | literal word isByte rest ih => exact .literal word isByte ih
  | copy word found copied rest ih =>
    exact .copy word
      ⟨found.fields, hrules.spelling found.spelled, hrules.reach found.reached⟩ copied ih

theorem Block.mono (hrules : rules.Within rules') (h : Block rules src pos out next content) :
    Block rules' src pos out next content := by
  cases h with
  | stored kind body => exact .stored kind body
  | fixed kind body => exact .fixed kind (body.mono hrules)
  | own kind codes body =>
    exact .own kind { codes with most := ⟨codes.most.1, hrules.distances codes.most.2⟩ }
      (body.mono hrules)

theorem Blocks.mono (hrules : rules.Within rules') (h : Blocks rules src pos out next content) :
    Blocks rules' src pos out next content := by
  induction h with
  | last mark block => exact .last mark (block.mono hrules)
  | more mark block rest ih => exact .more mark (block.mono hrules) ih

/-- **Rules that allow as much leave what is in the format there.** -/
theorem Expands.mono (hrules : rules.Within rules') {start : Nat}
    (h : Expands rules src start next content) : Expands rules' src start next content := by
  obtain ⟨pos, hblocks, hnext⟩ := h
  exact ⟨pos, hblocks.mono hrules, hnext⟩

end Mono

end StatusRegistry.Deflate

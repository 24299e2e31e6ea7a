import StatusRegistry.Deflate.Tree

/-!
# Expanding compressed data

The reader of DEFLATE data: stored blocks, blocks of the fixed code, and blocks that bring their
own codes.

* A match may reach back at most 32768 bytes; in front of the content stand zero bytes.
* The content is read up to a limit: as soon as it is longer, reading stops with `tooLong`, and
  nothing behind that place is looked at.
* Each code word and each block header uses up at least one bit, so the number of bits bounds the
  number of steps.
-/

set_option autoImplicit false

namespace StatusRegistry.Deflate

open Bytes

/-! ## Matches -/

/-- The lengths that the symbols from 257 on stand for, each with the number of extra bits. -/
def lengthCodes : List (Nat × Nat) :=
  [(3, 0), (4, 0), (5, 0), (6, 0), (7, 0), (8, 0), (9, 0), (10, 0), (11, 1), (13, 1), (15, 1),
   (17, 1), (19, 2), (23, 2), (27, 2), (31, 2), (35, 3), (43, 3), (51, 3), (59, 3), (67, 4),
   (83, 4), (99, 4), (115, 4), (131, 5), (163, 5), (195, 5), (227, 5), (258, 0)]

/-- The distances that the distance symbols stand for, each with the number of extra bits. -/
def distanceCodes : List (Nat × Nat) :=
  [(1, 0), (2, 0), (3, 0), (4, 0), (5, 1), (7, 1), (9, 2), (13, 2), (17, 3), (25, 3), (33, 4),
   (49, 4), (65, 5), (97, 5), (129, 6), (193, 6), (257, 7), (385, 7), (513, 8), (769, 8),
   (1025, 9), (1537, 9), (2049, 10), (3073, 10), (4097, 11), (6145, 11), (8193, 12), (12289, 12),
   (16385, 13), (24577, 13)]

/-- The byte a distance back from the end, zero in front of the start. -/
def byteBack (out : ByteArray) (distance : Nat) : UInt8 :=
  if distance ≤ out.size then byteAt out (out.size - distance) else 0

/-- Appends a number of bytes, each the one a distance back from it. -/
def copyBack (distance : Nat) : Nat → ByteArray → ByteArray
  | 0, out => out
  | count + 1, out => copyBack distance count (out.push (byteBack out distance))

/-- Reads a value given by the place of its symbol in a table and extra bits: the value and the
position behind it. -/
def readExtra (src : ByteArray) (codes : List (Nat × Nat)) (place pos : Nat) :
    Except Fault (Nat × Nat) :=
  match codes[place]? with
  | none => .error .corrupt
  | some (base, extra) =>
    match readBits src extra pos with
    | .ok n => .ok (base + n, pos + extra)
    | .error e => .error e

/-- A match: how many bytes to copy and how far back they stand. -/
structure Match where
  length : Nat
  distance : Nat

/-- Reads the rest of a match behind its length symbol. -/
@[irreducible] def readMatch (src : ByteArray) (distances : CodeTree) (symbol pos : Nat) :
    Except Fault (Match × Nat) :=
  match readExtra src lengthCodes (symbol - 257) pos with
  | .error e => .error e
  | .ok (length, pos) =>
    match distances.read src pos with
    | .error e => .error e
    | .ok (symbol, pos) =>
      match readExtra src distanceCodes symbol pos with
      | .error e => .error e
      | .ok (distance, pos) => .ok (⟨length, distance⟩, pos)

/-- Reads literals and matches up to the end of a block: the position behind the block and the
content. -/
def readSymbols (src : ByteArray) (literals distances : CodeTree) (limit : Nat) :
    Nat → Nat → ByteArray → Except Fault (Nat × ByteArray)
  | 0, _, _ => .error .incomplete
  | fuel + 1, pos, out =>
    if limit < out.size then .error .tooLong
    else
      match literals.read src pos with
      | .error e => .error e
      | .ok (symbol, pos) =>
        if symbol < 256 then
          readSymbols src literals distances limit fuel pos (out.push (.ofNat symbol))
        else if symbol = 256 then .ok (pos, out)
        else
          match readMatch src distances symbol pos with
          | .error e => .error e
          | .ok (m, pos) =>
            readSymbols src literals distances limit fuel pos (copyBack m.distance m.length out)

/-! ## Codes -/

/-- The word lengths of the fixed code of literals and lengths. -/
def fixedLengths : List Nat :=
  List.replicate 144 8 ++ List.replicate 112 9 ++ List.replicate 24 7 ++ List.replicate 8 8

/-- The fixed code of literals and lengths. -/
def fixedLiterals : CodeTree := (CodeTree.ofLengths? false fixedLengths).getD .gap

/-- The fixed code of distances. -/
def fixedDistances : CodeTree := (CodeTree.ofLengths? false (List.replicate 32 5)).getD .gap

/-- The order in which a block lists the word lengths of the code for word lengths. -/
def lengthOrder : List Nat := [16, 17, 18, 0, 8, 7, 9, 6, 10, 5, 11, 4, 12, 3, 13, 2, 14, 1, 15]

/-- Reads a number of three-bit word lengths. -/
def readShortLengths (src : ByteArray) : Nat → Nat → Except Fault (List Nat)
  | 0, _ => .ok []
  | count + 1, pos =>
    match readBits src 3 pos with
    | .error e => .error e
    | .ok l =>
      match readShortLengths src count (pos + 3) with
      | .ok rest => .ok (l :: rest)
      | .error e => .error e

/-- Reads the word lengths of the codes of a block until `total` of them are known.  The known
ones are held with the last one first; a symbol from 16 on repeats a length. -/
def readLengths (src : ByteArray) (code : CodeTree) (total : Nat) :
    Nat → Nat → List Nat → Except Fault (List Nat × Nat)
  | 0, _, _ => .error .incomplete
  | fuel + 1, pos, known =>
    if total < known.length then .error .corrupt
    else if known.length = total then .ok (known.reverse, pos)
    else
      match code.read src pos with
      | .error e => .error e
      | .ok (symbol, pos) =>
        if symbol < 16 then readLengths src code total fuel pos (symbol :: known)
        else
          let extra := if symbol = 16 then 2 else if symbol = 17 then 3 else 7
          let least := if symbol = 18 then 11 else 3
          let last := if symbol = 16 then known.head? else some 0
          match last with
          | none => .error .corrupt
          | some l =>
            match readBits src extra pos with
            | .error e => .error e
            | .ok n =>
              readLengths src code total fuel (pos + extra) (List.replicate (least + n) l ++ known)

/-- Reads the codes of a block that brings its own: for literals and lengths, for distances, and
the position behind them. -/
def readCodes (src : ByteArray) (pos : Nat) : Except Fault (CodeTree × CodeTree × Nat) := do
  let literalCount := (← readBits src 5 pos) + 257
  let distanceCount := (← readBits src 5 (pos + 5)) + 1
  let shortCount := (← readBits src 4 (pos + 10)) + 4
  if 286 < literalCount ∨ 30 < distanceCount then throw .corrupt
  let short ← readShortLengths src shortCount (pos + 14)
  let lengthOf (symbol : Nat) : Nat :=
    ((lengthOrder.zip short).lookup symbol).getD 0
  match CodeTree.ofLengths? false ((List.range 19).map lengthOf) with
  | none => throw .corrupt
  | some code =>
    let total := literalCount + distanceCount
    let (lengths, pos) ← readLengths src code total (total + 1) (pos + 14 + 3 * shortCount) []
    match CodeTree.ofLengths? true (lengths.take literalCount),
        CodeTree.ofLengths? true (lengths.drop literalCount) with
    | some literals, some distances => return (literals, distances, pos)
    | _, _ => throw .corrupt

/-! ## Blocks -/

/-- The 16-bit number at a byte position, low byte first. -/
def readLittle (src : ByteArray) (i : Nat) : Nat :=
  (byteAt src i).toNat + 256 * (byteAt src (i + 1)).toNat

/-- Reads a stored block behind its header: the position behind the block and the content. -/
def readStored (src : ByteArray) (pos : Nat) (out : ByteArray) :
    Except Fault (Nat × ByteArray) :=
  let start := (pos + 7) / 8
  if src.size < start + 4 then .error .incomplete
  else
    let length := readLittle src start
    if length + readLittle src (start + 2) ≠ 65535 then .error .corrupt
    else if src.size < start + 4 + length then .error .incomplete
    else .ok (8 * (start + 4 + length), out ++ src.extract (start + 4) (start + 4 + length))

/-- Reads one block behind the bit that marks the last one. -/
def readBlock (src : ByteArray) (limit pos : Nat) (out : ByteArray) :
    Except Fault (Nat × ByteArray) :=
  match readBits src 2 pos with
  | .error e => .error e
  | .ok kind =>
    if kind = 0 then readStored src (pos + 2) out
    else if kind = 1 then
      readSymbols src fixedLiterals fixedDistances limit (8 * src.size) (pos + 2) out
    else if kind = 2 then
      match readCodes src (pos + 2) with
      | .error e => .error e
      | .ok (literals, distances, pos) =>
        readSymbols src literals distances limit (8 * src.size) pos out
    else .error .corrupt

/-- Reads blocks up to the last one: the position behind it and the content. -/
def readBlocks (src : ByteArray) (limit : Nat) :
    Nat → Nat → ByteArray → Except Fault (Nat × ByteArray)
  | 0, _, _ => .error .incomplete
  | fuel + 1, pos, out =>
    match bit? src pos with
    | none => .error .incomplete
    | some last =>
      match readBlock src limit (pos + 1) out with
      | .error e => .error e
      | .ok (pos, out) =>
        if limit < out.size then .error .tooLong
        else if last then .ok (pos, out)
        else readBlocks src limit fuel pos out

/-- Expands the data that starts at a byte position: the byte position behind it and the
content, which is at most `limit` bytes long. -/
def inflate (src : ByteArray) (limit start : Nat) : Except Fault (Nat × ByteArray) :=
  match readBlocks src limit (8 * src.size) (8 * start) ByteArray.empty with
  | .error e => .error e
  | .ok (pos, out) => .ok ((pos + 7) / 8, out)

end StatusRegistry.Deflate

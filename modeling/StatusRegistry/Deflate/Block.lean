import StatusRegistry.Deflate.BitWriter
import StatusRegistry.Deflate.CodeLengths
import StatusRegistry.Deflate.Repeats

/-!
# Compressing content

Content as one block of compressed data: tokens in the fixed code, or in a code made for them if
that is shorter together with its description.

* `pack` writes the block by the shorter of two plans;
* a code is described by its word lengths, in which runs are written as repetitions; the lengths
  have a code of their own.
-/

set_option autoImplicit false

namespace StatusRegistry.Deflate

open Bytes

/-! ## Weights -/

/-- How many times symbols occur. -/
structure Weights where
  literals : Array Nat
  distances : Array Nat

/-- The array with one more at a place. -/
def countAt (a : Array Nat) (place : Nat) : Array Nat :=
  a.setIfInBounds place (a.getD place 0 + 1)

/-- The weights with one more token. -/
def Weights.add (w : Weights) (t : Token) : Weights :=
  let ⟨literals, distances⟩ := w
  match t with
  | .literal b => ⟨countAt literals b.toNat, distances⟩
  | .copy m =>
    ⟨countAt literals (257 + (spell lengthCodes m.length).1),
      countAt distances (spell distanceCodes m.distance).1⟩

/-- The weights of the symbols of a block: those of its tokens, and the end. -/
def Weights.ofTokens (ts : Array Token) : Weights :=
  ts.foldl Weights.add ⟨countAt (Array.replicate 286 0) 256, Array.replicate 30 0⟩

/-- The usual size of the bytes of some content. -/
def Density.ofContent (data : ByteArray) : Density :=
  let weights := (fold (fun a b => countAt a b.toNat) (Array.replicate 256 0) data).toList
  ⟨totalBits weights (codeLengths CodeTree.maxLength weights), data.size⟩

/-! ## Codes -/

/-- The word lengths of the two codes of a block. -/
structure Codes where
  literals : List Nat
  distances : List Nat

/-- The codes that every reader knows. -/
def Codes.fixed : Codes := ⟨fixedLengths, List.replicate 32 5⟩

/-- The codes made for symbols of the given weights. -/
def Codes.ofWeights (w : Weights) : Codes :=
  ⟨codeLengths CodeTree.maxLength w.literals.toList,
    codeLengths CodeTree.maxLength w.distances.toList⟩

/-- The bits that the symbols of the given weights take. -/
def Codes.bits (c : Codes) (w : Weights) : Nat :=
  totalBits w.literals.toList c.literals + totalBits w.distances.toList c.distances

/-! ## The description of codes -/

/-- A symbol of the code for word lengths, and the extra bits behind it. -/
structure LengthSymbol where
  symbol : Nat
  extra : Nat
  value : Nat

/-- A number cut into pieces of at most `greatest`; a last piece below `least` is left over. -/
def pieces (least greatest : Nat) : Nat → Nat → List Nat × Nat
  | 0, count => ([], count)
  | fuel + 1, count =>
    if count < least then ([], count)
    else
      let piece := min greatest count
      let (rest, left) := pieces least greatest fuel (count - piece)
      (piece :: rest, left)

/-- A run of so many equal word lengths. -/
def lengthRun (length count : Nat) : List LengthSymbol :=
  let plain (n : Nat) := List.replicate n (⟨length, 0, 0⟩ : LengthSymbol)
  if length = 0 then
    let (long, left) := pieces 11 138 count count
    let (short, left) := pieces 3 10 left left
    long.map (fun n => ⟨18, 7, n - 11⟩) ++ short.map (fun n => ⟨17, 3, n - 3⟩) ++ plain left
  else
    let (again, left) := pieces 3 6 count (count - 1)
    plain 1 ++ again.map (fun n => ⟨16, 2, n - 3⟩) ++ plain left

/-- Word lengths as symbols. -/
def lengthSymbols (lengths : List Nat) : List LengthSymbol :=
  (lengths.splitBy (· == ·)).flatMap fun run => lengthRun (run.headD 0) run.length

/-- The list without zeros at its end, but with so many items at least. -/
def trimZeros (least : Nat) (lengths : List Nat) : List Nat :=
  lengths.take (max least (lengths.length - (lengths.reverse.takeWhile (· == 0)).length))

/-- How the codes of a block are described. -/
structure Description where
  literalCount : Nat
  distanceCount : Nat
  /-- The word lengths of the code for word lengths, by symbol. -/
  code : List Nat
  /-- The same lengths in the order of the block, as far as they are listed. -/
  listed : List Nat
  symbols : List LengthSymbol

/-- The description of codes. -/
def Description.ofCodes (c : Codes) : Description :=
  let literals := trimZeros 257 c.literals
  let distances := trimZeros 1 c.distances
  let symbols := lengthSymbols (literals ++ distances)
  let weights := symbols.foldl (fun a s => countAt a s.symbol) (Array.replicate 19 0)
  let code := codeLengths 7 weights.toList
  ⟨literals.length, distances.length, code,
    trimZeros 4 (lengthOrder.map fun symbol => code.getD symbol 0), symbols⟩

/-- The number of bits of a description. -/
def Description.bits (d : Description) : Nat :=
  14 + 3 * d.listed.length +
    d.symbols.foldl (fun total s => total + d.code.getD s.symbol 0 + s.extra) 0

/-- Writes a description. -/
def BitWriter.pushDescription (w : BitWriter) (d : Description) : BitWriter :=
  let words := wordTable d.code
  let w := ((w.pushLow 5 (d.literalCount - 257)).pushLow 5 (d.distanceCount - 1)).pushLow 4
    (d.listed.length - 4)
  let w := d.listed.foldl (fun w length => w.pushLow 3 length) w
  d.symbols.foldl (fun w s => (w.pushBits (words.getD s.symbol [])).pushLow s.extra s.value) w

/-! ## Blocks -/

/-- Writes a token. -/
def BitWriter.pushToken (literals distances : Array (List Bool)) (w : BitWriter) (t : Token) :
    BitWriter :=
  match t with
  | .literal b => w.pushBits (literals.getD b.toNat [])
  | .copy m =>
    let (place, extra, value) := spell lengthCodes m.length
    let w := (w.pushBits (literals.getD (257 + place) [])).pushLow extra value
    let (place, extra, value) := spell distanceCodes m.distance
    (w.pushBits (distances.getD place [])).pushLow extra value

/-- Writes tokens and the end of their block. -/
def BitWriter.pushTokens (w : BitWriter) (c : Codes) (ts : Array Token) : BitWriter :=
  let literals := wordTable c.literals
  let distances := wordTable c.distances
  (ts.foldl (BitWriter.pushToken literals distances) w).pushBits (literals.getD 256 [])

/-- A way to write some content as a block: its tokens and their codes, which are described unless
every reader knows them. -/
structure Plan where
  tokens : Array Token
  codes : Codes
  description : Option Description

/-- The plan of the fixed code, in which most bytes take eight bits. -/
def Plan.fixed (data : ByteArray) : Plan := ⟨tokenize data ⟨8, 1⟩, .fixed, none⟩

/-- The plan of a code of the content's own. -/
def Plan.own (data : ByteArray) : Plan :=
  let ts := tokenize data (.ofContent data)
  let codes := Codes.ofWeights (Weights.ofTokens ts)
  ⟨ts, codes, some (.ofCodes codes)⟩

/-- The number of bits of a plan. -/
def Plan.bits (p : Plan) : Nat :=
  (p.description.map Description.bits).getD 0 + p.codes.bits (Weights.ofTokens p.tokens) +
    p.tokens.foldl (fun n t => n + t.extraBits) 0

/-- Writes content by a plan as one last block. -/
def Plan.write (p : Plan) : ByteArray :=
  let w := BitWriter.start.push true
  let w :=
    match p.description with
    | none => w.pushLow 2 1
    | some d => (w.pushLow 2 2).pushDescription d
  (w.pushTokens p.codes p.tokens).finish

/-- Content as one last block of compressed data. -/
def pack (data : ByteArray) : ByteArray :=
  let fixed := Plan.fixed data
  let own := Plan.own data
  if own.bits < fixed.bits then own.write else fixed.write

end StatusRegistry.Deflate

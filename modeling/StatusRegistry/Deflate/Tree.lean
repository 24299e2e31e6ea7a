import StatusRegistry.Bytes.Basic

/-!
# Code trees

Reading bits and prefix codes from compressed data.  Bits are numbered from the low end of the
first byte on.  A code is a binary tree: the path to a leaf is the code word of its symbol.

* `CodeTree.ofLengths?` builds the tree of the canonical code with given word lengths: shorter
  words come first, words of one length in the order of their symbols.
* A code is turned down if its words do not fit, or do not fill the tree; a caller may allow a
  code without words or with one word of one bit, which leaves the rest of the tree empty.
-/

set_option autoImplicit false

namespace StatusRegistry.Deflate

/-- What can be wrong with compressed data. -/
inductive Fault where
  /-- The data breaks a rule of the format. -/
  | corrupt
  /-- The data ends early. -/
  | incomplete
  /-- The content is longer than the reader allows. -/
  | tooLong
  deriving DecidableEq, Repr

/-- The bit at a position. -/
def bit? (src : ByteArray) (pos : Nat) : Option Bool :=
  if h : pos / 8 < src.size then some (src[pos / 8].toNat.testBit (pos % 8)) else none

/-- The number written by the next `count` bits, the low bit first. -/
def readBits (src : ByteArray) : Nat → Nat → Except Fault Nat
  | 0, _ => .ok 0
  | count + 1, pos =>
    match bit? src pos with
    | none => .error .incomplete
    | some b =>
      match readBits src count (pos + 1) with
      | .ok n => .ok (b.toNat + 2 * n)
      | .error e => .error e

/-- A prefix code.  A gap is a path that is no code word and begins none. -/
inductive CodeTree where
  | leaf (symbol : Nat)
  | node (zero one : CodeTree)
  | gap
  deriving Repr, Inhabited

namespace CodeTree

/-- Reads one code word: its symbol and the position behind it. -/
def read (src : ByteArray) : CodeTree → Nat → Except Fault (Nat × Nat)
  | leaf symbol, pos => .ok (symbol, pos)
  | gap, _ => .error .corrupt
  | node zero one, pos =>
    match bit? src pos with
    | none => .error .incomplete
    | some false => zero.read src (pos + 1)
    | some true => one.read src (pos + 1)

/-- Joins trees in pairs, with a gap beside the last one if their number is odd. -/
def pairUp : List CodeTree → List CodeTree
  | [] => []
  | [t] => [node t gap]
  | t :: u :: rest => node t u :: pairUp rest

/-- The leaves of the symbols, counted from `symbol` on, whose word length is `length`. -/
def leaves (length : Nat) : Nat → List Nat → List CodeTree
  | _, [] => []
  | symbol, l :: rest =>
    if l = length then leaf symbol :: leaves length (symbol + 1) rest
    else leaves length (symbol + 1) rest

/-- The trees at depth `depth`, given those one level further down. -/
def rise (lengths : List Nat) : Nat → List CodeTree → List CodeTree
  | 0, below => pairUp below
  | depth + 1, below => rise lengths depth (leaves (depth + 1) 0 lengths ++ pairUp below)

/-- The greatest length of a code word. -/
def maxLength : Nat := 15

/-- The number of words of length 15 that the words of a code stand for. -/
def weight (lengths : List Nat) : Nat :=
  lengths.foldl (fun total l => if l = 0 then total else total + (1 <<< (maxLength - l))) 0

/-- The tree of the canonical code with the given word lengths, a length of zero marking a
symbol without a word.  `sparse` allows a code without words and one of a single bit. -/
def ofLengths? (sparse : Bool) (lengths : List Nat) : Option CodeTree :=
  let full := weight lengths == 1 <<< maxLength
  if full || (sparse && lengths.foldl (· + ·) 0 ≤ 1) then
    match rise lengths maxLength [] with
    | [] => some (node gap gap)
    | t :: _ => some t
  else none

end CodeTree

end StatusRegistry.Deflate

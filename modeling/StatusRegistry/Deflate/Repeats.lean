import StatusRegistry.Deflate.Inflate

/-!
# Repeated content

Content as a sequence of tokens: bytes that stand for themselves, and matches that repeat bytes a
distance back.  Matches are looked for among the places where the same three bytes stood before,
the latest first, and taken if they are cheaper than the bytes they stand for.
-/

set_option autoImplicit false

namespace StatusRegistry.Deflate

open Bytes

/-- A step of the content. -/
inductive Token where
  | literal (byte : UInt8)
  | copy (repeated : Match)

/-! ## Finding matches -/

/-- The greatest distance that a match reaches back. -/
def window : Nat := 32768

/-- The greatest length of a match. -/
def maxMatch : Nat := 258

/-- The number of places that are tried for one match. -/
def maxTries : Nat := 16

/-- How many bytes from two places on are the same: `found` of them are known to be, and at most
`left` more are looked at. -/
def agree (data : ByteArray) (i j found : Nat) : Nat → Nat
  | 0 => found
  | left + 1 =>
    if byteAt data (i + found) = byteAt data (j + found) then agree data i j (found + 1) left
    else found

/-- The places where groups of three bytes stood.  A place is held as its successor, and zero
stands for none. -/
structure Places where
  /-- The last place of a group, by the number of the group. -/
  latest : Array Nat
  /-- The place of a group before a place, by the place within the window. -/
  earlier : Array Nat

namespace Places

/-- No place at all. -/
def none : Places := ⟨Array.replicate window 0, Array.replicate window 0⟩

/-- The number of the group of three bytes at a place; different groups may have one number. -/
def group (data : ByteArray) (pos : Nat) : Nat :=
  ((byteAt data pos).toNat * 1024 + (byteAt data (pos + 1)).toNat * 32 +
    (byteAt data (pos + 2)).toNat) % window

/-- The places with one more. -/
def note (p : Places) (data : ByteArray) (pos : Nat) : Places :=
  let ⟨latest, earlier⟩ := p
  let g := group data pos
  let before := latest.getD g 0
  ⟨latest.setIfInBounds g (pos + 1), earlier.setIfInBounds (pos % window) before⟩

/-- The longest match for a place that starts at a candidate or at one of the places before it;
the first of several. -/
def longest (p : Places) (data : ByteArray) (pos limit : Nat) : Nat → Nat → Match → Match
  | 0, _, best => best
  | tries + 1, candidate, best =>
    if candidate = 0 ∨ candidate + window < pos + 1 then best
    else
      let place := candidate - 1
      let length := agree data place pos 0 limit
      let best := if best.length < length then ⟨length, pos - place⟩ else best
      if length = limit then best
      else longest p data pos limit tries (p.earlier.getD (place % window) 0) best

/-- The longest match for a place. -/
def find (p : Places) (data : ByteArray) (pos : Nat) : Match :=
  let limit := min maxMatch (data.size - pos)
  p.longest data pos limit maxTries (p.latest.getD (group data pos) 0) ⟨0, 0⟩

end Places

/-! ## Choosing matches -/

/-- The place in a table of the last entry that does not exceed a value, the number of extra bits,
and what they say. -/
def spell (codes : List (Nat × Nat)) (value : Nat) : Nat × Nat × Nat :=
  let place := (codes.takeWhile fun code => code.1 ≤ value).length - 1
  let (base, extra) := (codes[place]?).getD (0, 0)
  (place, extra, value - base)

/-- The extra bits of a match. -/
def Match.extraBits (m : Match) : Nat :=
  (spell lengthCodes m.length).2.1 + (spell distanceCodes m.distance).2.1

/-- The extra bits of a token. -/
def Token.extraBits : Token → Nat
  | literal _ => 0
  | copy m => m.extraBits

/-- The bits that a match usually takes: seven for its length and five for its distance, and the
extra bits. -/
def Match.usualBits (m : Match) : Nat := 12 + m.extraBits

/-- The usual size of the content's bytes: so many bits for so many bytes. -/
structure Density where
  bits : Nat
  bytes : Nat

/-- Whether a match is worth taking: it is long enough to be written, and takes fewer bits than
the bytes it stands for. -/
def Match.pays (m : Match) (d : Density) : Bool :=
  3 ≤ m.length && m.usualBits * d.bytes < m.length * d.bits

/-- Appends the tokens of the last `left` bytes, of which the first `skip` belong to a match.  Of
a long match, only the last places are noted. -/
def tokensFrom (data : ByteArray) (d : Density) :
    Nat → Nat → Places → Array Token → Array Token
  | 0, _, _, out => out
  | left + 1, skip, p, out =>
    let pos := data.size - (left + 1)
    match skip with
    | skip + 1 => tokensFrom data d left skip (if skip < 64 then p.note data pos else p) out
    | 0 =>
      let m := p.find data pos
      if m.pays d then
        tokensFrom data d left (m.length - 1) (p.note data pos) (out.push (.copy m))
      else
        tokensFrom data d left 0 (p.note data pos) (out.push (.literal (byteAt data pos)))

/-- The tokens of content. -/
def tokenize (data : ByteArray) (d : Density) : Array Token :=
  tokensFrom data d data.size 0 .none #[]

end StatusRegistry.Deflate

import StatusRegistry.Text.Numeral

/-!
# Percent encoding

Bytes of a URL written as a percent sign and two digits.  Each part of a URL has its own set of
characters that are written so; characters outside ASCII are written so in every part.

* `encode_kept`: a text of characters that a part keeps stands for itself.
-/

set_option autoImplicit false

namespace StatusRegistry.Url

open Text

/-- The parts of a URL that have sets of their own. -/
inductive Part where
  /-- A host or a path that is not looked into. -/
  | opaquePart
  | fragment
  | query
  /-- The query of a scheme with a known structure. -/
  | specialQuery
  | path
  | userinfo
  deriving DecidableEq, Repr

/-- The visible ASCII characters, with the blank, that a part writes with a percent sign. -/
def Part.escaped : Part → List Char
  | opaquePart => []
  | fragment => [' ', '"', '<', '>', '\x60']
  | query => [' ', '"', '#', '<', '>']
  | specialQuery => [' ', '"', '#', '<', '>', '\'']
  | path => [' ', '"', '<', '>', '\x60', '#', '?', '\x7b', '\x7d']
  | userinfo =>
    [' ', '"', '<', '>', '\x60', '#', '?', '\x7b', '\x7d', '/', ':', ';', '=', '@', '[', '\\',
      ']', '^', '|']

/-- Whether a part keeps a character as it is. -/
def Part.keeps (part : Part) (c : Char) : Bool :=
  decide (0x20 ≤ c.toNat) && decide (c.toNat < 0x7f) && !part.escaped.contains c

/-- A byte as a percent sign and two digits. -/
def escapeByte (b : UInt8) : List Char :=
  ['%', upperAscii (digitChar (b.toNat / 16)), upperAscii (digitChar (b.toNat % 16))]

/-- A character as a part writes it. -/
def encodeChar (part : Part) (c : Char) : List Char :=
  if part.keeps c then [c] else (String.utf8EncodeChar c).flatMap escapeByte

/-- A text as a part writes it. -/
def encode (part : Part) (cs : List Char) : List Char := cs.flatMap (encodeChar part)

/-- The bytes of a text, with every percent sign and two digits replaced by the byte of that
number. -/
def decode : List Char → List UInt8
  | '%' :: a :: b :: rest =>
    match digitIn? 16 a, digitIn? 16 b with
    | some x, some y => .ofNat (16 * x + y) :: decode rest
    | _, _ => 0x25 :: decode (a :: b :: rest)
  | c :: rest => String.utf8EncodeChar c ++ decode rest
  | [] => []

/-- A text of characters that a part keeps stands for itself. -/
theorem encode_kept {part : Part} {cs : List Char} (h : ∀ c ∈ cs, part.keeps c = true) :
    encode part cs = cs := by
  induction cs with
  | nil => rfl
  | cons c cs ih =>
    have hc := h c (List.mem_cons_self)
    have hcs := ih fun d hd => h d (List.mem_cons_of_mem c hd)
    rw [encode, List.flatMap_cons, encodeChar, if_pos hc]
    rw [encode] at hcs
    rw [hcs]
    rfl

end StatusRegistry.Url

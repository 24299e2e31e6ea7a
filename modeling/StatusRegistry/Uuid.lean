import StatusRegistry.Json.Reading

/-!
# UUIDs

Identifiers of 128 bits, ordered as numbers.

* A UUID is written in lower case with hyphens after 8, 12, 16 and 20 digits.
* It is read in either case: with the hyphens, as 32 digits without them, with hyphens between
  braces, or with hyphens after `urn:uuid:`, each letter of which may be in either case too.
-/

set_option autoImplicit false

namespace StatusRegistry

open Text

/-- A UUID as a number of 128 bits. -/
structure Uuid where
  number : BitVec 128
  deriving DecidableEq, Hashable, Repr

namespace Uuid

/-- The UUID of all zeros. -/
def nil : Uuid := ⟨0⟩

/-- The number that a UUID stands for; UUIDs are ordered by it. -/
def toNat (u : Uuid) : Nat := u.number.toNat

theorem toNat_inj {u v : Uuid} (h : u.toNat = v.toNat) : u = v :=
  congrArg Uuid.mk (BitVec.eq_of_toNat_eq h)

/-- The version digit of a UUID. -/
def version (u : Uuid) : Nat := (u.toNat >>> 76) % 16

/-- The UUID of version 4 with the given random bits; six of them give way to the version and
the variant. -/
def random (bits : BitVec 128) : Uuid :=
  let n := bits.toNat
  let high := n >>> 80
  let middle := (n >>> 64) % 4096
  let low := n % (1 <<< 62)
  ⟨BitVec.ofNat 128 ((high <<< 80) + (4 <<< 76) + (middle <<< 64) + (1 <<< 63) + low)⟩

/-! ## Text -/

/-- The 32 digits of a UUID. -/
def digits (u : Uuid) : List Char := padZeros 32 (hex u.toNat)

/-- The text of a UUID. -/
def text (u : Uuid) : String :=
  let d := u.digits
  String.ofList (d.take 8 ++ '-' :: (d.drop 8).take 4 ++ '-' :: (d.drop 12).take 4 ++
    '-' :: (d.drop 16).take 4 ++ '-' :: d.drop 20)

/-- The UUID written by 32 digits. -/
def ofDigits? (cs : List Char) : Option Uuid :=
  if cs.length = 32 then (value? 16 cs).map fun n => ⟨BitVec.ofNat 128 n⟩ else none

/-- The UUID written by 32 digits in groups of 8, 4, 4, 4 and 12, a hyphen between two groups. -/
def ofHyphenated? (cs : List Char) : Option Uuid :=
  if cs.length = 36 ∧ cs[8]? = some '-' ∧ cs[13]? = some '-' ∧ cs[18]? = some '-' ∧
      cs[23]? = some '-' then
    ofDigits? (cs.take 8 ++ (cs.drop 9).take 4 ++ (cs.drop 14).take 4 ++ (cs.drop 19).take 4 ++
      cs.drop 24)
  else none

/-- The name that may stand in front of a UUID, in lower case. -/
def urn : List Char := "urn:uuid:".toList

/-- The UUID that a text writes in one of the accepted forms. -/
def ofText? (s : String) : Option Uuid :=
  match s.toList with
  | '\x7b' :: cs =>
    if cs.getLast? = some '\x7d' then ofHyphenated? cs.dropLast else none
  | cs =>
    if cs.length = 32 then ofDigits? cs
    else if (cs.take urn.length).map lowerAscii = urn then ofHyphenated? (cs.drop urn.length)
    else ofHyphenated? cs

/-- Reads a UUID from a document. -/
def ofJson : Reader Uuid
  | .string s =>
    match ofText? s with
    | some u => .ok u
    | none => .error .uuid
  | j => .error (.wrongType j .uuid)

/-- A UUID in a document. -/
def toJson (u : Uuid) : Json := .string u.text

end Uuid

end StatusRegistry

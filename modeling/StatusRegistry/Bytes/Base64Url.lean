import StatusRegistry.Bytes.Basic

/-!
# Base64url

Bytes as text over the URL-safe alphabet of 64 characters, without padding.

* `encode` writes three bytes as four characters, and one or two left over as two or three;
* `decode?` is strict: a foreign character, a single character left over, or unused bits that are
  not zero make a text unreadable.
-/

set_option autoImplicit false

namespace StatusRegistry.Base64Url

open Bytes

/-- The character of a value below 64. -/
def letter (n : Nat) : Char :=
  if n < 26 then Char.ofNat (65 + n)
  else if n < 52 then Char.ofNat (71 + n)
  else if n < 62 then Char.ofNat (n - 4)
  else if n = 62 then '-'
  else '_'

/-- The value of a character of the alphabet. -/
def value? (c : Char) : Option Nat :=
  if 'A' ≤ c ∧ c ≤ 'Z' then some (c.toNat - 65)
  else if 'a' ≤ c ∧ c ≤ 'z' then some (c.toNat - 71)
  else if '0' ≤ c ∧ c ≤ '9' then some (c.toNat + 4)
  else if c = '-' then some 62
  else if c = '_' then some 63
  else none

/-- Appends the text of the last `left` bytes of an array. -/
def encodeLast (data : ByteArray) : Nat → String → String
  | 0, out => out
  | 1, out =>
    let a := (byteAt data (data.size - 1)).toNat
    (out.push (letter (a / 4))).push (letter (a % 4 * 16))
  | 2, out =>
    let a := (byteAt data (data.size - 2)).toNat
    let b := (byteAt data (data.size - 1)).toNat
    ((out.push (letter (a / 4))).push (letter (a % 4 * 16 + b / 16))).push (letter (b % 16 * 4))
  | left + 3, out =>
    let i := data.size - (left + 3)
    let a := (byteAt data i).toNat
    let b := (byteAt data (i + 1)).toNat
    let c := (byteAt data (i + 2)).toNat
    encodeLast data left
      ((((out.push (letter (a / 4))).push (letter (a % 4 * 16 + b / 16))).push
        (letter (b % 16 * 4 + c / 64))).push (letter (c % 64)))

/-- The text of the bytes of an array. -/
def encode (data : ByteArray) : String := encodeLast data data.size ""

/-- Appends the bytes that a text writes. -/
def decodeOnto (out : ByteArray) : List Char → Option ByteArray
  | [] => some out
  | [_] => none
  | [a, b] =>
    match value? a, value? b with
    | some a, some b => if b % 16 = 0 then some (out.push (.ofNat (a * 4 + b / 16))) else none
    | _, _ => none
  | [a, b, c] =>
    match value? a, value? b, value? c with
    | some a, some b, some c =>
      if c % 4 = 0 then
        some ((out.push (.ofNat (a * 4 + b / 16))).push (.ofNat (b % 16 * 16 + c / 4)))
      else none
    | _, _, _ => none
  | a :: b :: c :: d :: rest =>
    match value? a, value? b, value? c, value? d with
    | some a, some b, some c, some d =>
      decodeOnto
        (((out.push (.ofNat (a * 4 + b / 16))).push (.ofNat (b % 16 * 16 + c / 4))).push
          (.ofNat (c % 4 * 64 + d))) rest
    | _, _, _, _ => none

/-- The bytes that a text writes, if it is a text of the alphabet in its strict form. -/
def decode? (cs : List Char) : Option ByteArray := decodeOnto ByteArray.empty cs

/-! ## Small facts -/

/-- Each character of the alphabet is read back as its value. -/
theorem value?_letter {n : Nat} (h : n < 64) : value? (letter n) = some n := by
  have : ∀ k : Fin 64, value? (letter k.val) = some k.val := by decide
  exact this ⟨n, h⟩

end StatusRegistry.Base64Url

/-!
# Numerals

Natural numbers written in a base up to 36, and read back.

* `write base n` has no leading zero and lower-case letters;
* `value? base cs` accepts a nonempty list of digits of the base, in either case, leading zeros
  included, and nothing else.
-/

set_option autoImplicit false

namespace StatusRegistry.Text

/-- The value of a digit character: `0`–`9`, then letters of either case from ten on. -/
def digitValue? (c : Char) : Option Nat :=
  if '0' ≤ c ∧ c ≤ '9' then some (c.toNat - 48)
  else if 'a' ≤ c ∧ c ≤ 'z' then some (c.toNat - 87)
  else if 'A' ≤ c ∧ c ≤ 'Z' then some (c.toNat - 55)
  else none

/-- The character of a digit below 36, in lower case. -/
def digitChar (n : Nat) : Char :=
  if n < 10 then Char.ofNat (48 + n) else Char.ofNat (87 + n)

/-- The value of a character as a digit of the base. -/
def digitIn? (base : Nat) (c : Char) : Option Nat :=
  match digitValue? c with
  | some d => if d < base then some d else none
  | none => none

/-- Reads the digits of a list from the left into the number read so far. -/
def extend? (base : Nat) : Nat → List Char → Option Nat
  | n, [] => some n
  | n, c :: cs =>
    match digitIn? base c with
    | some d => extend? base (n * base + d) cs
    | none => none

/-- The number written by a nonempty list of digits of the base. -/
def value? (base : Nat) : List Char → Option Nat
  | [] => none
  | c :: cs => extend? base 0 (c :: cs)

/-- The digits of a number in a base of at least two, the last one first. -/
def digitsRev (base : Nat) (hb : 2 ≤ base) (n : Nat) : List Char :=
  if _h : n < base then [digitChar n]
  else digitChar (n % base) :: digitsRev base hb (n / base)
termination_by n
decreasing_by exact Nat.div_lt_self (by omega) (by omega)

/-- The decimal digits of a number, without leading zeros. -/
def decimal (n : Nat) : List Char := (digitsRev 10 (by decide) n).reverse

/-- The hexadecimal digits of a number, in lower case and without leading zeros. -/
def hex (n : Nat) : List Char := (digitsRev 16 (by decide) n).reverse

/-- A list of characters filled up with zeros on the left to the given width. -/
def padZeros (width : Nat) (cs : List Char) : List Char :=
  List.replicate (width - cs.length) '0' ++ cs

/-- A number in decimal, as text. -/
def decimalText (n : Nat) : String := String.ofList (decimal n)

/-- An integer in decimal: a minus sign in front of a negative one. -/
def integerText (i : Int) : String :=
  if i < 0 then "-" ++ decimalText i.natAbs else decimalText i.natAbs

/-- The lower-case letter of an ASCII capital; any other character as it is. -/
def lowerAscii (c : Char) : Char :=
  if 'A' ≤ c ∧ c ≤ 'Z' then Char.ofNat (c.toNat + 32) else c

/-- The capital of an ASCII lower-case letter; any other character as it is. -/
def upperAscii (c : Char) : Char :=
  if 'a' ≤ c ∧ c ≤ 'z' then Char.ofNat (c.toNat - 32) else c

/-- A digit of the decimal system; no digit outside ASCII is one. -/
def isDigit (c : Char) : Bool := decide ('0' ≤ c) && decide (c ≤ '9')

/-- A letter of the ASCII alphabet. -/
def isLetter (c : Char) : Bool :=
  (decide ('a' ≤ c) && decide (c ≤ 'z')) || (decide ('A' ≤ c) && decide (c ≤ 'Z'))

/-! ## Small facts -/

/-- Every digit below 36 is read back from its character. -/
theorem digitValue?_digitChar {n : Nat} (h : n < 36) : digitValue? (digitChar n) = some n := by
  have : ∀ k : Fin 36, digitValue? (digitChar k.val) = some k.val := by decide
  exact this ⟨n, h⟩

theorem extend?_append (base n : Nat) (xs ys : List Char) :
    extend? base n (xs ++ ys) = (extend? base n xs).bind (extend? base · ys) := by
  induction xs generalizing n with
  | nil => simp [extend?]
  | cons c cs ih =>
    simp only [List.cons_append, extend?]
    split <;> simp [ih]

end StatusRegistry.Text

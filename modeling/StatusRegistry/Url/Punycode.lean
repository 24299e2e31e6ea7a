/-!
# Punycode

Text in the characters of domain names.  The ASCII characters stand in front of the last hyphen;
behind it, numbers say which other characters there are, in ascending order, and where they stand.
A number is written in base 36 with digits `a` to `z` and `0` to `9`, the lowest one first; a digit
below the threshold of its place ends the number, and the thresholds follow the numbers read
before.

* `decode` reads a text and `encode` writes it.
-/

set_option autoImplicit false

namespace StatusRegistry.Url.Punycode

/-- The value of a digit. -/
def digit? (c : Char) : Option Nat :=
  if 'a' ≤ c ∧ c ≤ 'z' then some (c.toNat - 'a'.toNat)
  else if '0' ≤ c ∧ c ≤ '9' then some (26 + (c.toNat - '0'.toNat))
  else none

/-- The threshold of a place under a bias; the first place is number 36, the next one 72. -/
def threshold (bias place : Nat) : Nat :=
  if place ≤ bias then 1 else if bias + 26 ≤ place then 26 else place - bias

/-- The weight that no place of a number reaches. -/
def weightBound : Nat := 4294967296

/-- Reads the rest of a number whose digits so far are worth `value`; the next digit counts
`weight` times.  A number with a place of too great a weight is refused. -/
def readNumber (bias : Nat) : Nat → Nat → Nat → List Char → Option (Nat × List Char)
  | _, _, _, [] => none
  | place, weight, value, c :: cs =>
    match digit? c with
    | none => none
    | some d =>
      let t := threshold bias place
      if d < t then some (value + d * weight, cs)
      else if weightBound ≤ weight * (36 - t) then none
      else readNumber bias (place + 36) (weight * (36 - t)) (value + d * weight) cs

theorem readNumber_shorter {bias place weight value n : Nat} {cs rest : List Char}
    (h : readNumber bias place weight value cs = some (n, rest)) : rest.length < cs.length := by
  induction cs generalizing place weight value with
  | nil => simp [readNumber] at h
  | cons c cs ih =>
    simp only [readNumber] at h
    split at h
    · simp at h
    · split at h
      · simp only [Option.some.injEq, Prod.mk.injEq] at h
        simp [h.2]
      · split at h
        · simp at h
        · have := ih h
          simp only [List.length_cons]
          omega

/-- Divides a step by 35 until it is at most 455; 36 for every division is added to the bias. -/
def settle (step : Nat) : Nat :=
  if 455 < step then 36 + settle (step / 35) else 36 * step / (step + 38)
termination_by step
decreasing_by exact Nat.div_lt_self (by omega) (by omega)

/-- The bias behind a number that made a text `length` characters long. -/
def nextBias (number length : Nat) (first : Bool) : Nat :=
  let step := if first then number / 700 else number / 2
  settle (step + step / length)

/-- The list with an item put in at a place. -/
def insertAt (cs : List Char) (place : Nat) (c : Char) : List Char :=
  cs.take place ++ c :: cs.drop place

/-- The character of a code point. -/
def char? (n : Nat) : Option Char := if n.isValidChar then some (Char.ofNat n) else none

/-- Puts the characters of the numbers that follow into the text.  The next one has at least the
code point `least`, and if it has that one it stands at `place` or behind it. -/
def readInsertions (text : List Char) (least place bias : Nat) (digits : List Char) :
    Option (List Char) :=
  if digits.isEmpty then some text
  else
    match _h : readNumber bias 36 1 0 digits with
    | none => none
    | some (number, rest) =>
      let length := text.length + 1
      let target := place + number
      let code := least + target / length
      let next := target % length
      match char? code with
      | none => none
      | some c =>
        readInsertions (insertAt text next c) code (next + 1)
          (nextBias number length (place == 0)) rest
termination_by digits.length
decreasing_by exact readNumber_shorter _h

/-- The text that a list of characters stands for. -/
def decode (cs : List Char) : Option (List Char) :=
  let digits := (cs.reverse.takeWhile (· != '-')).reverse
  let plain := (cs.take (cs.length - digits.length)).dropLast
  if digits.length + 1 = cs.length then none
  else readInsertions plain 128 0 72 digits

/-! ## Writing -/

/-- The digit of a value. -/
def digitOf (n : Nat) : Char :=
  if n < 26 then Char.ofNat ('a'.toNat + n) else Char.ofNat ('0'.toNat + (n - 26))

/-- The digits of a number from a place on; each place divides what is left. -/
def writeNumber (bias : Nat) : Nat → Nat → Nat → List Char
  | 0, _, _ => []
  | fuel + 1, place, number =>
    let t := threshold bias place
    if number < t then [digitOf number]
    else
      digitOf (t + (number - t) % (36 - t)) ::
        writeNumber bias fuel (place + 36) ((number - t) / (36 - t))

/-- How far the writer has come: what it has written, how much the next number has to say, how many
characters have their place, and the bias. -/
structure Writer where
  out : List Char
  pending : Nat
  placed : Nat
  bias : Nat

/-- Passes over a character of the text, when those of a code point are written. -/
def Writer.pass (code : Nat) (start : Nat) (w : Writer) (c : Char) : Writer :=
  if c.toNat < code then { w with pending := w.pending + 1 }
  else if c.toNat = code then
    ⟨w.out ++ writeNumber w.bias (w.pending + 1) 36 w.pending, 0, w.placed + 1,
      nextBias w.pending (w.placed + 1) (w.placed == start)⟩
  else w

/-- Writes the characters of the code points from `least` on, the lowest of them first. -/
def writeInsertions (text : List Char) (start : Nat) : Nat → Nat → Writer → Writer
  | 0, _, w => w
  | fuel + 1, least, w =>
    match ((text.map Char.toNat).filter (least ≤ ·)).min? with
    | none => w
    | some code =>
      let w := { w with pending := w.pending + (code - least) * (w.placed + 1) }
      let w := text.foldl (Writer.pass code start) w
      writeInsertions text start fuel (code + 1) { w with pending := w.pending + 1 }

/-- The characters that stand for a text. -/
def encode (text : List Char) : List Char :=
  let plain := text.filter fun c => c.toNat < 0x80
  let front := if plain.isEmpty then [] else plain ++ ['-']
  (writeInsertions text plain.length text.length 0x80 ⟨front, 0, plain.length, 72⟩).out

end StatusRegistry.Url.Punycode

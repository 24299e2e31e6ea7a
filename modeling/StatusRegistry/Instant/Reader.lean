import StatusRegistry.Instant
import StatusRegistry.Json.Reading

/-!
# Reading dates and times

The texts that are read as instants: a date, a separator, a time of day and an offset, written
leniently.

* Month, day, hour, minute and second may have one digit or two; a year has one to four digits,
  or any number of them behind a sign.  Blanks may stand in front of each part.
* The separator is `T`, `t` or a space; the offset is `Z`, `z`, `UTC` in any case, or a sign with
  hours and minutes, which colons and blanks may separate, and less than a day.
* Second 60 is a leap second at the end of any minute.  Digits of a fraction beyond the ninth are
  ignored.
-/

set_option autoImplicit false

namespace StatusRegistry

namespace Instant

open Text

/-- Skips blanks, then reads one to `most` digits. -/
def readNumber (most : Nat) (cs : List Char) : Option (Nat × List Char) :=
  let cs := cs.dropWhile isBlank
  let digits := (cs.take most).takeWhile isDigit
  (value? 10 digits).map fun n => (n, cs.drop digits.length)

/-- Skips blanks, then reads a year. -/
def readYear (cs : List Char) : Option (Int × List Char) :=
  let cs := cs.dropWhile isBlank
  match cs with
  | '-' :: rest =>
    (value? 10 (rest.takeWhile isDigit)).map fun n => (-(n : Int), rest.dropWhile isDigit)
  | '+' :: rest =>
    (value? 10 (rest.takeWhile isDigit)).map fun n => ((n : Int), rest.dropWhile isDigit)
  | cs => (readNumber 4 cs).map fun (n, rest) => ((n : Int), rest)

/-- Skips blanks, then one given character. -/
def expect (c : Char) (cs : List Char) : Option (List Char) :=
  match cs.dropWhile isBlank with
  | d :: rest => if d = c then some rest else none
  | [] => none

/-- Reads the date in front. -/
def readDate (cs : List Char) : Option (Date × List Char) := do
  let (year, cs) ← readYear cs
  let cs ← expect '-' cs
  let (month, cs) ← readNumber 2 cs
  let cs ← expect '-' cs
  let (day, cs) ← readNumber 2 cs
  let d : Date := ⟨year, month, day⟩
  if d.valid ∧ -262143 ≤ year ∧ year ≤ 262142 then some (d, cs) else none

/-- Reads a fraction if there is a point in front: its nanoseconds. -/
def readFraction (cs : List Char) : Option (Nat × List Char) :=
  match cs with
  | '.' :: rest =>
    let digits := (rest.takeWhile isDigit).take 9
    (value? 10 digits).map fun n => (n * Nat.pow 10 (9 - digits.length), rest.dropWhile isDigit)
  | cs => some (0, cs)

/-- A time of day: the second of the day and the nanoseconds of the fraction, which reach one
second in a leap second. -/
structure TimeOfDay where
  second : Nat
  nanos : Nat

/-- Reads the time of day in front. -/
def readTime (cs : List Char) : Option (TimeOfDay × List Char) := do
  let (hour, cs) ← readNumber 2 cs
  let cs ← expect ':' cs
  let (minute, cs) ← readNumber 2 cs
  let cs ← expect ':' cs
  let (second, cs) ← readNumber 2 cs
  let (nanos, cs) ← readFraction cs
  if hour < 24 ∧ minute < 60 ∧ second ≤ 60 then
    let start := hour * 3600 + minute * 60
    if second = 60 then some (⟨start + 59, nanos + 1000000000⟩, cs)
    else some (⟨start + second, nanos⟩, cs)
  else none

/-- The minutes of two pairs of digits: hours, then minutes below 60. -/
def offsetMinutes? (a b c d : Char) : Option Nat := do
  let hours ← value? 10 [a, b]
  let minutes ← value? 10 [c, d]
  if minutes < 60 then some (hours * 60 + minutes) else none

/-- Reads the hours and minutes of an offset. -/
def readOffsetDigits (cs : List Char) : Option (Nat × List Char) :=
  match cs with
  | a :: b :: rest =>
    match rest.dropWhile fun c => c == ':' || isBlank c with
    | c :: d :: rest => (offsetMinutes? a b c d).map fun n => (n, rest)
    | _ => none
  | _ => none

/-- Reads the offset from universal time in front, in minutes to the east. -/
def readOffset (cs : List Char) : Option (Int × List Char) :=
  match cs.dropWhile isBlank with
  | 'Z' :: rest => some (0, rest)
  | 'z' :: rest => some (0, rest)
  | '+' :: rest => (readOffsetDigits rest).map fun (n, rest) => ((n : Int), rest)
  | '-' :: rest => (readOffsetDigits rest).map fun (n, rest) => (-(n : Int), rest)
  | '\u2212' :: rest => (readOffsetDigits rest).map fun (n, rest) => (-(n : Int), rest)
  | cs =>
    if (cs.take 3).map upperAscii = ['U', 'T', 'C'] then some (0, cs.drop 3) else none

/-- The instant that a text writes, if it is written as described above. -/
def ofText? (s : String) : Option Instant := do
  let (date, cs) ← readDate s.toList
  let cs ← match cs with
    | 'T' :: rest => some rest
    | 't' :: rest => some rest
    | ' ' :: rest => some rest
    | _ => none
  let (time, cs) ← readTime cs
  let (offset, cs) ← readOffset cs
  if cs.all isBlank ∧ offset.natAbs < 1440 then
    of? (date.days * 86400 + time.second - offset * 60) time.nanos
  else none

/-- Reads an instant from a document. -/
def ofJson : Reader Instant
  | .string s =>
    match ofText? s with
    | some t => .ok t
    | none => .error .dateTime
  | j => .error (.wrongType j .dateTime)

/-- An instant in a document. -/
def toJson (t : Instant) : Json := .string t.text

end Instant

end StatusRegistry

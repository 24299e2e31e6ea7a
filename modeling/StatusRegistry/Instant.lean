import StatusRegistry.Calendar
import StatusRegistry.Text.Blank
import StatusRegistry.Text.Numeral

/-!
# Instants

Points in coordinated universal time with a resolution of one nanosecond, between the years
-262143 and 262142.  A leap second is told as second 59 of its minute with a fraction of one
second or more, so instants stay in order and every second count has its place in the calendar.

* `lt_iff` orders instants by seconds, then by fraction;
* `addMillis?` adds a span: within a leap second the fraction grows, and a span that leaves it
  counts from second 59 plus the fraction less one second;
* `wholeSecond` drops the fraction.
-/

set_option autoImplicit false

namespace StatusRegistry

/-- The second count of -262143-01-01 00:00:00. -/
def leastSecond : Int := -8334601228800

/-- The second count of 262142-12-31 23:59:59. -/
def greatestSecond : Int := 8210266876799

/-- A point in time: the seconds from 1970-01-01 00:00:00 and the nanoseconds of the fraction. -/
structure Instant where
  seconds : Int
  nanos : Nat
  least_le : leastSecond ≤ seconds
  le_greatest : seconds ≤ greatestSecond
  leap : nanos < 1000000000 ∨ nanos < 2000000000 ∧ seconds % 60 = 59
  deriving DecidableEq

namespace Instant

/-- The instant of a second count and a fraction, if there is one. -/
def of? (seconds : Int) (nanos : Nat) : Option Instant :=
  if h : (leastSecond ≤ seconds ∧ seconds ≤ greatestSecond) ∧
      (nanos < 1000000000 ∨ nanos < 2000000000 ∧ seconds % 60 = 59) then
    some ⟨seconds, nanos, h.1.1, h.1.2, h.2⟩
  else none

/-- 1970-01-01 00:00:00. -/
def epoch : Instant := ⟨0, 0, by decide, by decide, by decide⟩

instance : Inhabited Instant := ⟨epoch⟩

/-! ## Order -/

/-- The place of an instant in the order of time: a fraction counts less than a second. -/
def rank (t : Instant) : Int := t.seconds * 2000000000 + t.nanos

instance : LT Instant := ⟨fun a b => a.rank < b.rank⟩

instance : LE Instant := ⟨fun a b => a.rank ≤ b.rank⟩

instance (a b : Instant) : Decidable (a < b) := inferInstanceAs (Decidable (a.rank < b.rank))

instance (a b : Instant) : Decidable (a ≤ b) := inferInstanceAs (Decidable (a.rank ≤ b.rank))

theorem nanos_lt (t : Instant) : t.nanos < 2000000000 := by
  have := t.leap
  omega

theorem lt_iff {a b : Instant} :
    a < b ↔ a.seconds < b.seconds ∨ a.seconds = b.seconds ∧ a.nanos < b.nanos := by
  have ha := a.nanos_lt
  have hb := b.nanos_lt
  show a.rank < b.rank ↔ _
  simp only [rank]
  omega

theorem not_lt {a b : Instant} : ¬ a < b ↔ b ≤ a := by
  show ¬ a.rank < b.rank ↔ b.rank ≤ a.rank
  omega

/-- Instants of one rank are the same. -/
theorem rank_inj {a b : Instant} : a.rank = b.rank ↔ a = b := by
  constructor
  · intro h
    have ha := a.nanos_lt
    have hb := b.nanos_lt
    obtain ⟨seconds, nanos, _, _, _⟩ := a
    obtain ⟨seconds', nanos', _, _, _⟩ := b
    simp only [rank] at h ha hb
    obtain rfl : seconds = seconds' := by omega
    obtain rfl : nanos = nanos' := by omega
    rfl
  · rintro rfl
    rfl

/-! ## Arithmetic -/

/-- The instant without its fraction; a leap second becomes second 59. -/
def wholeSecond (t : Instant) : Instant :=
  ⟨t.seconds, 0, t.least_le, t.le_greatest, by omega⟩

/-- The instant a number of milliseconds later, unless that is past the last one. -/
def addMillis? (t : Instant) (millis : Nat) : Option Instant :=
  let nanos := t.nanos + millis % 1000 * 1000000
  if t.nanos < 1000000000 then
    of? (t.seconds + millis / 1000 + nanos / 1000000000) (nanos % 1000000000)
  else if millis < 1000 ∧ nanos < 2000000000 then of? t.seconds nanos
  else
    let nanos := nanos - 1000000000
    of? (t.seconds + millis / 1000 + nanos / 1000000000) (nanos % 1000000000)

/-! ## Text -/

open Text

/-- The date of an instant. -/
def date (t : Instant) : Date := Date.ofDays (t.seconds / 86400)

/-- The second of the day of an instant. -/
def secondOfDay (t : Instant) : Nat := (t.seconds % 86400).toNat

/-- A year of four digits, with a sign and at least four digits outside 0 to 9999. -/
def yearDigits (year : Int) : List Char :=
  if 0 ≤ year ∧ year ≤ 9999 then padZeros 4 (decimal year.toNat)
  else (if year < 0 then '-' else '+') :: padZeros 4 (decimal year.natAbs)

/-- A number below 100 in two digits. -/
def twoDigits (n : Nat) : List Char := padZeros 2 (decimal n)

/-- The date of an instant as digits and hyphens. -/
def dateDigits (t : Instant) : List Char :=
  let d := t.date
  yearDigits d.year ++ '-' :: twoDigits d.month ++ '-' :: twoDigits d.day

/-- The time of day of an instant as digits and colons; a leap second is second 60. -/
def timeDigits (t : Instant) : List Char :=
  let s := t.secondOfDay
  twoDigits (s / 3600) ++ ':' :: twoDigits (s / 60 % 60) ++
    ':' :: twoDigits (s % 60 + t.nanos / 1000000000)

/-- The fraction of an instant: none, or a point and the fewest of three, six and nine digits
that are exact. -/
def fractionDigits (t : Instant) : List Char :=
  let n := t.nanos % 1000000000
  if n = 0 then []
  else if n % 1000000 = 0 then '.' :: padZeros 3 (decimal (n / 1000000))
  else if n % 1000 = 0 then '.' :: padZeros 6 (decimal (n / 1000))
  else '.' :: padZeros 9 (decimal n)

/-- The text of an instant in documents. -/
def text (t : Instant) : String :=
  String.ofList (t.dateDigits ++ 'T' :: t.timeDigits ++ t.fractionDigits ++ ['Z'])

/-- The text of an instant without its fraction. -/
def secondText (t : Instant) : String :=
  String.ofList (t.dateDigits ++ 'T' :: t.timeDigits ++ ['Z'])

/-- The text of an instant in messages. -/
def spacedText (t : Instant) : String :=
  String.ofList (t.dateDigits ++ ' ' :: t.timeDigits ++ t.fractionDigits) ++ " UTC"

end Instant

end StatusRegistry

/-!
# Binary floating-point numbers

A finite number of the 64-bit binary format as exact data: a sign, a whole significand and a
power of two.  A decimal is read by rounding its digits, then their product with a power of ten or
their quotient by one; a number is written with the fewest decimal digits that a single rounding
takes back to it.  All arithmetic is exact, on natural numbers.

* `roundHalfEven num den` is a nearest whole number to `num / den`, a tie going to the even one;
* `ofQuotient` rounds a quotient once, and gives nothing when the result is too large;
* `ofDecimal` reads `digits · 10 ^ exponent`;
* `shortest` finds the digits to write, `positionalDigits` lays them out.
-/

set_option autoImplicit false

namespace StatusRegistry

/-- The number `± significand · 2 ^ exponent`.  A nonzero significand has 53 bits, or fewer at
the least exponent, -1074. -/
structure Binary64 where
  negative : Bool
  significand : Nat
  exponent : Int
  deriving DecidableEq, Repr, Inhabited

namespace Binary64

/-! ## Rounding -/

/-- The nearest whole number to `num / den`; of two equally near, the even one. -/
def roundHalfEven (num den : Nat) : Nat :=
  let q := num / den
  let r := num % den
  if 2 * r < den then q
  else if den < 2 * r then q + 1
  else if q % 2 = 0 then q else q + 1

/-- The two parts of a quotient that stands for `n · base ^ e`. -/
def scaled (n base : Nat) (e : Int) : Nat × Nat :=
  if 0 ≤ e then (n * base.pow e.toNat, 1) else (n, base.pow (-e).toNat)

/-- The power of two at which `num / den` has a significand of 53 bits, or -1074 if that is
more. -/
def binaryExponent (num den : Nat) : Int :=
  let guess : Int := (num.log2 : Int) - den.log2 - 53
  let next := guess + 1
  let fits (e : Int) : Bool :=
    if 0 ≤ e then num < den <<< (53 + e.toNat) else num <<< (-e).toNat < den <<< 53
  max (if fits guess then guess else if fits next then next else next + 1) (-1074)

/-- The nearest number to the quotient, unless that is beyond the largest one. -/
def ofQuotient (negative : Bool) (num den : Nat) : Option Binary64 :=
  if num = 0 then some ⟨negative, 0, -1074⟩
  else
    let e := binaryExponent num den
    let m := if 0 ≤ e then roundHalfEven num (den <<< e.toNat)
      else roundHalfEven (num <<< (-e).toNat) den
    let carried := m == 1 <<< 53
    let m := if carried then 1 <<< 52 else m
    let e := if carried then e + 1 else e
    if 971 < e then none else some ⟨negative, m, e⟩

/-! ## Reading decimals -/

/-- The magnitude of a number as a quotient. -/
def quotient (x : Binary64) : Nat × Nat := scaled x.significand 2 x.exponent

/-- The nearest number to the product of a number and a positive one. -/
def times (x y : Binary64) : Option Binary64 :=
  ofQuotient x.negative (x.quotient.1 * y.quotient.1) (x.quotient.2 * y.quotient.2)

/-- The nearest number to the quotient of a number by a positive one. -/
def dividedBy (x y : Binary64) : Option Binary64 :=
  ofQuotient x.negative (x.quotient.1 * y.quotient.2) (x.quotient.2 * y.quotient.1)

/-- The greatest power of ten that the format holds. -/
def maxPower : Nat := 308

/-- The nearest number to a power of ten. -/
def tenPower (power : Nat) : Option Binary64 := ofQuotient false (Nat.pow 10 power) 1

/-- A number times a power of ten, unless that is beyond the largest number. -/
def raise (x : Binary64) (power : Nat) : Option Binary64 :=
  if maxPower < power then if x.significand = 0 then some x else none
  else (tenPower power).bind x.times

/-- A number divided a number of times by the greatest power of ten, or until it is zero. -/
def lowerMost (x : Binary64) : Nat → Option Binary64
  | 0 => some x
  | times + 1 =>
    if x.significand = 0 then some x
    else
      match (tenPower maxPower).bind x.dividedBy with
      | none => none
      | some y => y.lowerMost times

/-- A number divided by a power of ten: by the greatest one as long as more than that is asked
for, then by the power that is left. -/
def lower (x : Binary64) (power : Nat) : Option Binary64 :=
  let times := (power - 1) / maxPower
  (x.lowerMost times).bind fun y => (tenPower (power - times * maxPower)).bind y.dividedBy

/-- The number that `± digits · 10 ^ exponent` is read as: the digits are rounded first, then
their product with the power of ten or their quotient by it.  A result beyond the largest number
is none. -/
def ofDecimal (negative : Bool) (digits : Nat) (exponent : Int) : Option Binary64 :=
  match ofQuotient negative digits 1 with
  | none => none
  | some x => if 0 ≤ exponent then x.raise exponent.toNat else x.lower (-exponent).toNat

/-! ## Shortest decimal text -/

/-- A decimal `digits · 10 ^ exponent`. -/
structure Decimal where
  digits : Nat
  exponent : Int
  deriving DecidableEq, Repr

/-- The reals that round to a number, as quotients over one denominator: the number itself and
the two ends, which belong to the interval iff the significand is even. -/
structure Interval where
  low : Nat
  value : Nat
  high : Nat
  den : Nat
  closed : Bool

/-- The interval of the reals that round to a positive number. -/
def interval (x : Binary64) : Interval :=
  let m := x.significand
  let lowGap := if m = 1 <<< 52 ∧ -1074 < x.exponent then 1 else 2
  let up := if 0 ≤ x.exponent then 1 <<< x.exponent.toNat else 1
  let down := if 0 ≤ x.exponent then 1 else 1 <<< (-x.exponent).toNat
  ⟨(4 * m - lowGap) * up, 4 * m * up, (4 * m + 2) * up, 4 * down, m % 2 = 0⟩

/-- Whether the decimal lies in the interval. -/
def Interval.has (i : Interval) (d : Decimal) : Bool :=
  let (num, den) := scaled d.digits 10 d.exponent
  if i.closed then i.low * den ≤ num * i.den && num * i.den ≤ i.high * den
  else i.low * den < num * i.den && num * i.den < i.high * den

/-- The distance of a decimal from the interval's number, over a denominator that depends on the
decimal's exponent alone. -/
def Interval.distance (i : Interval) (d : Decimal) : Nat :=
  let (num, den) := scaled d.digits 10 d.exponent
  let a := num * i.den
  let b := i.value * den
  if a < b then b - a else a - b

/-- The largest decimal on the grid `10 ^ exponent` that does not exceed the number. -/
def Interval.floor (i : Interval) (exponent : Int) : Decimal :=
  if 0 ≤ exponent then ⟨i.value / (i.den * Nat.pow 10 exponent.toNat), exponent⟩
  else ⟨i.value * Nat.pow 10 (-exponent).toNat / i.den, exponent⟩

/-- The decimal of the interval on the grid nearest to the number, if there is one. -/
def Interval.onGrid (i : Interval) (exponent : Int) : Option Decimal :=
  let below := i.floor exponent
  let above : Decimal := ⟨below.digits + 1, exponent⟩
  match i.has below, i.has above with
  | true, true =>
    if i.distance above < i.distance below then some above
    else if i.distance below < i.distance above then some below
    else if below.digits % 2 = 0 then some below else some above
  | true, false => some below
  | false, true => some above
  | false, false => none

/-- The first grid, from the coarsest on, that meets the interval. -/
def Interval.search (i : Interval) (exponent : Int) : Nat → Decimal
  | 0 => i.floor exponent
  | fuel + 1 =>
    match i.onGrid exponent with
    | some d => d
    | none => i.search (exponent - 1) fuel

/-- A decimal without zeros at its end. -/
def Decimal.strip (d : Decimal) : Nat → Decimal
  | 0 => d
  | fuel + 1 =>
    if d.digits ≠ 0 ∧ d.digits % 10 = 0 then
      (⟨d.digits / 10, d.exponent + 1⟩ : Decimal).strip fuel
    else d

/-- The decimal with the fewest digits that rounds to the number's magnitude. -/
def shortest (x : Binary64) : Decimal :=
  if x.significand = 0 then ⟨0, 0⟩
  else
    let i := x.interval
    let size : Int := ((i.value.log2 : Int) - i.den.log2 + 1) * 30103 / 100000 + 1
    (i.search size 20).strip 20

/-- The digits of a decimal with the point at its place, and a fraction even if it is zero. -/
def positionalDigits (d : Decimal) (cs : List Char) : List Char :=
  if 0 ≤ d.exponent then cs ++ List.replicate d.exponent.toNat '0' ++ ['.', '0']
  else
    let places := (-d.exponent).toNat
    if places < cs.length then cs.take (cs.length - places) ++ '.' :: cs.drop (cs.length - places)
    else '0' :: '.' :: List.replicate (places - cs.length) '0' ++ cs

end Binary64

end StatusRegistry

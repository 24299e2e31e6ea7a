import StatusRegistry.Json.Basic
import StatusRegistry.Text.Numeral

/-!
# JSON text

Writing a value as text and reading text as a value.

* A whole number between -2^63 and 2^64 - 1 is read as such; any other number, a number with a
  point or an exponent, and `-0` are floating-point numbers.  Of such a number the digits that do
  not fit in 64 bits are not looked at.  One too large for the format makes the text unreadable.
* The members of an object are kept in ascending order of their names, the last of several with
  one name.
* Floating-point numbers are written with the fewest digits that stand for them, always with a
  point or an exponent, and an exponent always with its sign.
-/

set_option autoImplicit false

namespace StatusRegistry.Json

open Text

/-! ## Writing -/

/-- The character of a hexadecimal digit of a number, the last digit being number zero. -/
def hexDigitAt (n place : Nat) : Char := digitChar ((n >>> (4 * place)) % 16)

/-- A character inside a string literal. -/
def writeChar (out : String) (c : Char) : String :=
  if c = '"' then out ++ "\\\""
  else if c = '\\' then out ++ "\\\\"
  else if c.toNat < 0x20 then
    let n := c.toNat
    ((((out ++ "\\u").push (hexDigitAt n 3)).push (hexDigitAt n 2)).push (hexDigitAt n 1)).push
      (hexDigitAt n 0)
  else out.push c

/-- A string literal. -/
def writeString (out : String) (s : String) : String :=
  (s.toList.foldl writeChar (out.push '"')).push '"'

/-- An exponent, with its sign. -/
def exponentText (i : Int) : String := if i < 0 then integerText i else "+" ++ integerText i

/-- The text of a floating-point number: positional for magnitudes between 10^-5 and 10^16, else
one digit in front of the point and an exponent. -/
def floatText (x : Binary64) : String :=
  let d := x.shortest
  let cs := decimal d.digits
  let lead : Int := (cs.length : Int) + d.exponent
  let body :=
    if -5 < lead ∧ lead ≤ 16 then String.ofList (Binary64.positionalDigits d cs)
    else
      let head := String.ofList (cs.take 1)
      let tail := String.ofList (cs.drop 1)
      (if tail.isEmpty then head else head ++ "." ++ tail) ++ "e" ++ exponentText (lead - 1)
  if x.negative then "-" ++ body else body

mutual

/-- Appends the text of a value. -/
def write (out : String) : Json → String
  | null => out ++ "null"
  | bool b => out ++ (if b then "true" else "false")
  | int i => out ++ integerText i
  | float x => out ++ floatText x
  | string s => writeString out s
  | array items => (writeItems (out.push '[') true items).push ']'
  | object members => (writeMembers (out.push '\x7b') true members).push '\x7d'

/-- Appends the items of an array, a comma in front of each but the first. -/
def writeItems (out : String) (first : Bool) : List Json → String
  | [] => out
  | j :: rest => writeItems (write (if first then out else out.push ',') j) false rest

/-- Appends the members of an object, a comma in front of each but the first. -/
def writeMembers (out : String) (first : Bool) : List (String × Json) → String
  | [] => out
  | (name, j) :: rest =>
    let out := if first then out else out.push ','
    writeMembers (write ((writeString out name).push ':') j) false rest

end

/-- The text of a value. -/
def text (j : Json) : String := write "" j

/-! ## Reading -/

/-- The list without the white space of JSON in front. -/
def skipSpace : List Char → List Char
  | ' ' :: cs => skipSpace cs
  | '\t' :: cs => skipSpace cs
  | '\n' :: cs => skipSpace cs
  | '\r' :: cs => skipSpace cs
  | cs => cs

/-- The value of four hexadecimal digits. -/
def hex4? (a b c d : Char) : Option Nat := value? 16 [a, b, c, d]

/-- Reads the rest of a string literal, up to its closing quote.  `done` holds the characters
read so far, the last one first. -/
def readString (done : List Char) : List Char → Option (String × List Char)
  | '"' :: rest => some (String.ofList done.reverse, rest)
  | '\\' :: 'u' :: a :: b :: c :: d :: '\\' :: 'u' :: e :: f :: g :: h :: rest =>
    match hex4? a b c d, hex4? e f g h with
    | some high, some low =>
      if 0xd800 ≤ high ∧ high < 0xdc00 then
        if 0xdc00 ≤ low ∧ low < 0xe000 then
          readString (Char.ofNat (0x10000 + (high - 0xd800) * 0x400 + (low - 0xdc00)) :: done) rest
        else none
      else if 0xdc00 ≤ high ∧ high < 0xe000 then none
      else readString (Char.ofNat high :: done) ('\\' :: 'u' :: e :: f :: g :: h :: rest)
    | _, _ => none
  | '\\' :: 'u' :: a :: b :: c :: d :: rest =>
    match hex4? a b c d with
    | some n =>
      if 0xd800 ≤ n ∧ n < 0xe000 then none else readString (Char.ofNat n :: done) rest
    | none => none
  | '\\' :: c :: rest =>
    match c with
    | '"' => readString ('"' :: done) rest
    | '\\' => readString ('\\' :: done) rest
    | '/' => readString ('/' :: done) rest
    | 'b' => readString ('\x08' :: done) rest
    | 'f' => readString ('\x0c' :: done) rest
    | 'n' => readString ('\n' :: done) rest
    | 'r' => readString ('\r' :: done) rest
    | 't' => readString ('\t' :: done) rest
    | _ => none
  | c :: rest => if c.toNat < 0x20 then none else readString (c :: done) rest
  | [] => none

/-- The least whole number that is read as one. -/
def leastInt : Int := -9223372036854775808

/-- The greatest whole number that is read as one, and the greatest number of digits kept. -/
def greatestInt : Nat := 18446744073709551615

/-- Reads decimal digits into a number as long as it stays within the greatest one: the number and
how many digits are left over. -/
def readDigits (n : Nat) : List Char → Nat × Nat
  | [] => (n, 0)
  | c :: cs =>
    let next := n * 10 + (c.toNat - '0'.toNat)
    if greatestInt < next then (n, cs.length + 1) else readDigits next cs

/-- A number from its sign, the digits in front of and after its point, and its exponent; the
flag says whether it was written as a whole number. -/
def number? (negative whole : Bool) (front fraction : List Char) (exponent : Int) : Option Json :=
  let (n, left) := readDigits 0 front
  let i : Int := if negative then -(n : Int) else n
  if whole && left == 0 && leastInt ≤ i && !(negative && n == 0) then some (int i)
  else
    let (n, unread) := readDigits n fraction
    (Binary64.ofDecimal negative n (exponent + left + unread - fraction.length)).map float

/-- Reads a number that starts with a digit. -/
def readNumber (negative : Bool) (cs : List Char) : Option (Json × List Char) :=
  let front := cs.takeWhile isDigit
  let cs := cs.dropWhile isDigit
  if front.isEmpty || (front.length > 1 && front.head? == some '0') then none
  else
    let pointed := cs.head? == some '.'
    let fraction := if pointed then (cs.drop 1).takeWhile isDigit else []
    let cs := if pointed then (cs.drop 1).dropWhile isDigit else cs
    if pointed && fraction.isEmpty then none
    else
      let scaled := cs.head? == some 'e' || cs.head? == some 'E'
      let signed := scaled && ((cs.drop 1).head? == some '-' || (cs.drop 1).head? == some '+')
      let below := signed && (cs.drop 1).head? == some '-'
      let cs := if signed then cs.drop 2 else if scaled then cs.drop 1 else cs
      let power := if scaled then cs.takeWhile isDigit else []
      let cs := if scaled then cs.dropWhile isDigit else cs
      if scaled && power.isEmpty then none
      else
        let magnitude : Int := ((extend? 10 0 power).getD 0 : Nat)
        let exponent := if below then -magnitude else magnitude
        (number? negative (!pointed && !scaled) front fraction exponent).map fun j => (j, cs)

mutual

/-- Reads one value; the first argument bounds the number of steps. -/
def readValue : Nat → List Char → Option (Json × List Char)
  | 0, _ => none
  | fuel + 1, cs =>
    match skipSpace cs with
    | 'n' :: 'u' :: 'l' :: 'l' :: rest => some (null, rest)
    | 't' :: 'r' :: 'u' :: 'e' :: rest => some (bool true, rest)
    | 'f' :: 'a' :: 'l' :: 's' :: 'e' :: rest => some (bool false, rest)
    | '"' :: rest => (readString [] rest).map fun (s, rest) => (string s, rest)
    | '[' :: rest =>
      match skipSpace rest with
      | ']' :: rest => some (array [], rest)
      | rest => readItems fuel [] rest
    | '\x7b' :: rest =>
      match skipSpace rest with
      | '\x7d' :: rest => some (object [], rest)
      | rest => readMembers fuel [] rest
    | '-' :: rest => readNumber true rest
    | rest => readNumber false rest

/-- Reads the items of an array up to its closing bracket. -/
def readItems : Nat → List Json → List Char → Option (Json × List Char)
  | 0, _, _ => none
  | fuel + 1, done, cs =>
    match readValue fuel cs with
    | none => none
    | some (j, cs) =>
      match skipSpace cs with
      | ',' :: rest => readItems fuel (j :: done) rest
      | ']' :: rest => some (array (j :: done).reverse, rest)
      | _ => none

/-- Reads the members of an object up to its closing bracket. -/
def readMembers : Nat → Members → List Char → Option (Json × List Char)
  | 0, _, _ => none
  | fuel + 1, done, cs =>
    match skipSpace cs with
    | '"' :: rest =>
      match readString [] rest with
      | none => none
      | some (name, cs) =>
        match skipSpace cs with
        | ':' :: rest =>
          match readValue fuel rest with
          | none => none
          | some (j, cs) =>
            match skipSpace cs with
            | ',' :: rest => readMembers fuel (done.insert name j) rest
            | '\x7d' :: rest => some (object (done.insert name j), rest)
            | _ => none
        | _ => none
    | _ => none

end

/-- The value that a text writes.  Every step of the reader uses a character or ends, so twice
the length bounds the steps. -/
def parse? (s : String) : Option Json :=
  let cs := s.toList
  match readValue (2 * cs.length + 2) cs with
  | some (j, rest) => if (skipSpace rest).isEmpty then some j else none
  | none => none

end StatusRegistry.Json

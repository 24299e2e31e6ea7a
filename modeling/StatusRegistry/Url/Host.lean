import StatusRegistry.Url.Label
import StatusRegistry.Url.Percent

/-!
# Hosts

The hosts of URLs: domain names, addresses of 32 bits, addresses of 128 bits, and hosts of schemes
whose structure is not known.

* A domain name is kept in lower case, and consists of ASCII characters; its labels, which may
  stand for other text in Punycode, have to be sound.  A name with other characters is mapped to one
  in ASCII: `DomainNames` is what is known of that mapping.
* A name whose last label is a number is an address of 32 bits: one to four numbers in decimal,
  octal behind a zero, or hexadecimal behind `0x`, the last of which fills what the others leave.
* An address of 128 bits is written with the longest run of two or more zero pieces left out.
-/

set_option autoImplicit false

namespace StatusRegistry.Url

open Text

/-- Why a text is no URL. -/
inductive Fault where
  | relative
  | emptyHost
  | invalidPort
  | invalidIpv4
  | invalidIpv6
  | invalidDomain
  | invalidOpaqueHost
  deriving DecidableEq, Repr

/-- The wording of a fault. -/
def Fault.message : Fault → String
  | relative => "relative URL without a base"
  | emptyHost => "empty host"
  | invalidPort => "invalid port number"
  | invalidIpv4 => "invalid IPv4 address"
  | invalidIpv6 => "invalid IPv6 address"
  | invalidDomain => "invalid international domain name"
  | invalidOpaqueHost => "invalid domain character"

/-- A host. -/
inductive Host where
  | empty
  | domain (name : List Char)
  | ipv4 (address : Nat)
  | ipv6 (pieces : List Nat)
  | opaqueHost (name : List Char)
  deriving DecidableEq, Repr

/-! ## Addresses of 32 bits -/

/-- A list cut at every occurrence of a separator. -/
def splitOn (separator : Char → Bool) : List Char → List (List Char)
  | [] => [[]]
  | c :: cs =>
    if separator c then [] :: splitOn separator cs
    else
      match splitOn separator cs with
      | [] => [[c]]
      | first :: others => (c :: first) :: others

/-- The number of a label, if it is written as one; nothing stands for zero behind a mark. -/
def ipv4Number? (label : List Char) : Option Nat :=
  let number (base : Nat) (digits : List Char) : Option Nat :=
    if digits.isEmpty then some 0 else value? base digits
  match label with
  | [] => none
  | '0' :: 'x' :: digits => number 16 digits
  | '0' :: 'X' :: digits => number 16 digits
  | '0' :: d :: digits => number 8 (d :: digits)
  | digits => number 10 digits

/-- The labels of a name, without the empty one behind a point at the end. -/
def labels (name : List Char) : List (List Char) :=
  let all := splitOn (· == '.') name
  if 1 < all.length ∧ all.getLast? = some [] then all.dropLast else all

/-- Whether the last label of a name is a number. -/
def endsInNumber (name : List Char) : Bool :=
  match (labels name).getLast? with
  | some label => (!label.isEmpty && label.all isDigit) || (ipv4Number? label).isSome
  | none => false

/-- The address of its numbers: each but the last is one byte. -/
def ipv4OfNumbers? (numbers : List Nat) : Option Nat :=
  match numbers.reverse with
  | [] => none
  | last :: others =>
    let room := Nat.pow 256 (4 - others.length)
    if others.length < 4 ∧ last < room ∧ others.all (· < 256) then
      let front := others.reverse.foldl (fun n byte => n * 256 + byte) 0
      some (front * room + last)
    else none

/-- The address that a name writes. -/
def readIpv4 (name : List Char) : Except Fault Host :=
  match (labels name).mapM ipv4Number? with
  | none => .error .invalidIpv4
  | some numbers =>
    match ipv4OfNumbers? numbers with
    | none => .error .invalidIpv4
    | some address => .ok (.ipv4 address)

/-! ## Addresses of 128 bits -/

/-- The byte that a label writes in decimal without leading zeros. -/
def ipv4Byte? (label : List Char) : Option Nat :=
  if label.length ≤ 3 ∧ label.all isDigit ∧ (label.length = 1 ∨ label.head? ≠ some '0') then
    match value? 10 label with
    | some n => if n < 256 then some n else none
    | none => none
  else none

/-- The two pieces that four bytes with points between them write. -/
def ipv4Pieces? (cs : List Char) : Option (List Nat) :=
  match (splitOn (· == '.') cs).mapM ipv4Byte? with
  | some [a, b, c, d] => some [a * 256 + b, c * 256 + d]
  | _ => none

/-- The piece that one to four digits write. -/
def piece? (cs : List Char) : Option Nat := if cs.length ≤ 4 then value? 16 cs else none

/-- The pieces of groups; the last one may be an address of 32 bits. -/
def pieces? : List (List Char) → Option (List Nat)
  | [] => some []
  | [group] => if group.contains '.' then ipv4Pieces? group else (piece? group).map ([·])
  | group :: others => do
    let piece ← piece? group
    let rest ← pieces? others
    return piece :: rest

/-- The groups of one side of the gap: none if there is nothing. -/
def groups (cs : List Char) : List (List Char) := if cs.isEmpty then [] else splitOn (· == ':') cs

/-- The list in front of the first two colons in a row and the one behind them. -/
def splitGap : List Char → Option (List Char × List Char)
  | ':' :: ':' :: rest => some ([], rest)
  | c :: rest => (splitGap rest).map fun (front, back) => (c :: front, back)
  | [] => none

/-- The eight pieces that a text writes; two colons in a row stand for one zero piece or more. -/
def ipv6Pieces? (cs : List Char) : Option (List Nat) :=
  match splitGap cs with
  | none => do
    let pieces ← pieces? (groups cs)
    if pieces.length = 8 then some pieces else none
  | some (front, back) => do
    let front ← if front.contains '.' then none else pieces? (groups front)
    let back ← pieces? (groups back)
    if front.length + back.length < 8 then
      some (front ++ List.replicate (8 - front.length - back.length) 0 ++ back)
    else none

/-- The address that stands between brackets. -/
def readIpv6 (cs : List Char) : Except Fault Host :=
  match ipv6Pieces? cs with
  | some pieces => .ok (.ipv6 pieces)
  | none => .error .invalidIpv6

/-! ## Reading hosts -/

/-- The characters that no domain name has. -/
def forbiddenInDomain (c : Char) : Bool :=
  decide (c.toNat ≤ 0x20) || decide (0x7f ≤ c.toNat) ||
    ['%', '#', '/', ':', '<', '>', '?', '@', '[', '\\', ']', '^', '|'].contains c

/-- The characters that no other host has. -/
def forbiddenInHost (c : Char) : Bool :=
  ['\x00', '\t', '\n', '\r', ' ', '#', '/', ':', '<', '>', '?', '@', '[', '\\', ']', '^',
    '|'].contains c

/-- What stands between brackets, if the text has brackets around it. -/
def unbracket (cs : List Char) : Except Fault Host :=
  if cs.getLast? = some ']' then readIpv6 cs.dropLast else .error .invalidIpv6

/-- The name that a text in ASCII gives, in lower case. -/
def asciiName? (cs : List Char) : Option (List Char) :=
  let name := cs.map lowerAscii
  if name.any forbiddenInDomain || !areSound (splitOn (· == '.') name) then none else some name

theorem lowerAscii_lowerAscii (c : Char) : lowerAscii (lowerAscii c) = lowerAscii c := by
  by_cases h : 'A' ≤ c ∧ c ≤ 'Z'
  · have hupper : ∀ n, 65 ≤ n → n ≤ 90 →
        lowerAscii (lowerAscii (Char.ofNat n)) = lowerAscii (Char.ofNat n) := by
      intro n hlow hhigh
      have : ∀ k : Fin 26, lowerAscii (lowerAscii (Char.ofNat (65 + k.val))) =
          lowerAscii (Char.ofNat (65 + k.val)) := by decide
      have hk := this ⟨n - 65, by omega⟩
      have hn : 65 + (n - 65) = n := by omega
      simpa only [hn] using hk
    rw [← Char.ofNat_toNat c]
    exact hupper c.toNat h.1 h.2
  · have hsame : lowerAscii c = c := if_neg h
    rw [hsame, hsame]

theorem asciiName?_eq_some_iff {cs name : List Char} : asciiName? cs = some name ↔
    name = cs.map lowerAscii ∧ (∀ c ∈ name, forbiddenInDomain c = false) ∧
      areSound (splitOn (· == '.') name) = true := by
  simp only [asciiName?, Option.ite_none_left_eq_some, Bool.or_eq_true, not_or, Bool.not_eq_true,
    List.any_eq_false, Bool.not_eq_true', Bool.not_eq_false, Option.some.injEq]
  constructor
  · rintro ⟨⟨hallowed, hsound⟩, rfl⟩
    exact ⟨rfl, hallowed, hsound⟩
  · rintro ⟨rfl, hallowed, hsound⟩
    exact ⟨⟨hallowed, hsound⟩, rfl⟩

/-- A name in ASCII stands for itself. -/
theorem asciiName?_idem {cs name : List Char} (h : asciiName? cs = some name) :
    asciiName? name = some name := by
  obtain ⟨rfl, hallowed, hsound⟩ := asciiName?_eq_some_iff.mp h
  refine asciiName?_eq_some_iff.mpr ⟨?_, hallowed, hsound⟩
  rw [List.map_map]
  exact List.map_congr_left fun c _ => (lowerAscii_lowerAscii c).symm

/-- A mapping of names with characters outside ASCII to names in ASCII, by rules and tables that are
not part of this library. -/
class DomainNames where
  /-- The name in ASCII that the bytes of a name are mapped to, if they are those of a name. -/
  toAscii : List UInt8 → Option (List Char)
  /-- What is mapped to is a name in ASCII, and stands for itself. -/
  stable : ∀ {bytes : List UInt8} {name : List Char}, toAscii bytes = some name →
    asciiName? name = some name

/-- The name that bytes write. -/
def readName? [DomainNames] (bytes : List UInt8) : Option (List Char) :=
  if bytes.all (· < 0x80) then asciiName? (bytes.map fun b => Char.ofNat b.toNat)
  else DomainNames.toAscii bytes

/-- Reads the host of a scheme with a known structure. -/
def readHost [DomainNames] (cs : List Char) : Except Fault Host :=
  match cs with
  | '[' :: rest => unbracket rest
  | cs =>
    match readName? (decode cs) with
    | none => .error .invalidDomain
    | some name =>
      if name.isEmpty then .error .emptyHost
      else if endsInNumber name then readIpv4 name
      else .ok (.domain name)

/-- Reads the host of any other scheme, which may be empty. -/
def readOpaqueHost (cs : List Char) : Except Fault Host :=
  match cs with
  | [] => .ok .empty
  | '[' :: rest => unbracket rest
  | cs =>
    if cs.any forbiddenInHost then .error .invalidOpaqueHost
    else .ok (.opaqueHost (encode .opaquePart cs))

/-! ## Writing hosts -/

/-- The four bytes of an address, with points between them. -/
def ipv4Text (address : Nat) : List Char :=
  decimal (address / 16777216 % 256) ++ '.' :: decimal (address / 65536 % 256) ++
    '.' :: decimal (address / 256 % 256) ++ '.' :: decimal (address % 256)

/-- The number of zero pieces in front. -/
def zeroRun (pieces : List Nat) : Nat := (pieces.takeWhile (· == 0)).length

/-- The place and the length of the first longest run of zero pieces. -/
def longestRun : Nat → List Nat → Nat × Nat
  | _, [] => (0, 0)
  | place, piece :: rest =>
    let here := zeroRun (piece :: rest)
    let later := longestRun (place + 1) rest
    if here ≠ 0 ∧ later.2 ≤ here then (place, here) else later

/-- Pieces with colons between them. -/
def joinPieces (pieces : List Nat) : List Char :=
  match pieces with
  | [] => []
  | [piece] => hex piece
  | piece :: rest => hex piece ++ ':' :: joinPieces rest

/-- The text of an address of 128 bits. -/
def ipv6Text (pieces : List Nat) : List Char :=
  let (place, length) := longestRun 0 pieces
  if length < 2 then joinPieces pieces
  else joinPieces (pieces.take place) ++ ':' :: ':' :: joinPieces (pieces.drop (place + length))

/-- The text of a host. -/
def Host.chars : Host → List Char
  | empty => []
  | domain name => name
  | ipv4 address => ipv4Text address
  | ipv6 pieces => '[' :: ipv6Text pieces ++ [']']
  | opaqueHost name => name

end StatusRegistry.Url

import StatusRegistry.Text.Blank
import StatusRegistry.Url.Basic

/-!
# Reading URLs

How an absolute URL is read from text, in whatever form its parts are written.

* Controls and blanks around the text are dropped, and tabs and line breaks anywhere.
* Schemes with a known structure have a host, a usual port and a path; a backslash separates their
  segments as a slash does.  `file` has an empty host unless another machine than the own one is
  named and the path does not start with a drive.
* A segment of one dot is dropped and one of two dots takes the segment before with it, unless that
  is the letter of a drive.
* The letter of a drive is followed by a colon or a bar.  Only at the start of the path of a file
  does it stand for a drive, and there the bar is read as a colon.
-/

set_option autoImplicit false

namespace StatusRegistry

open Text

namespace Url

variable [DomainNames]

/-! ## Schemes -/

/-- What is known of the structure of a scheme. -/
inductive Kind where
  /-- A scheme with a host and a usual port. -/
  | network (port : Nat)
  /-- The scheme of files. -/
  | file
  /-- Any other scheme. -/
  | other
  deriving DecidableEq, Repr

/-- The kind of a scheme. -/
def Kind.ofScheme (scheme : List Char) : Kind :=
  let name := String.ofList scheme
  if name = "http" ∨ name = "ws" then network 80
  else if name = "https" ∨ name = "wss" then network 443
  else if name = "ftp" then network 21
  else if name = "file" then file
  else other

/-- Whether the structure of a scheme is known. -/
def Kind.special : Kind → Bool
  | other => false
  | _ => true

/-- Whether a character separates segments. -/
def Kind.separates (kind : Kind) (c : Char) : Bool := c == '/' || (kind.special && c == '\\')

/-- Whether a character ends a path. -/
def endsPath (c : Char) : Bool := c == '?' || c == '#'

/-- Whether a character ends an authority. -/
def Kind.endsAuthority (kind : Kind) (c : Char) : Bool := kind.separates c || endsPath c

/-- Whether a character may stand in a scheme. -/
def inScheme (c : Char) : Bool :=
  isLetter c || isDigit c || c == '+' || c == '-' || c == '.'

/-- Splits off the scheme, in lower case. -/
def readScheme (cs : List Char) : Option (List Char × List Char) :=
  match cs.head?, cs.dropWhile inScheme with
  | some c, ':' :: rest =>
    if isLetter c then some ((cs.takeWhile inScheme).map lowerAscii, rest) else none
  | _, _ => none

/-! ## Authorities -/

/-- The characters in front of the last occurrence of a character and those behind it. -/
def splitLast (separator : Char) : List Char → Option (List Char × List Char)
  | [] => none
  | c :: cs =>
    match splitLast separator cs with
    | some (front, back) => some (c :: front, back)
    | none => if c = separator then some ([], cs) else none

/-- The name and the password in front of a host. -/
def readCredentials (cs : List Char) : List Char × List Char :=
  let name := cs.takeWhile (· != ':')
  let password := (cs.dropWhile (· != ':')).drop 1
  (encode .userinfo name, encode .userinfo password)

/-- The characters of a host and those behind it; a colon ends a host outside brackets. -/
def splitHost (inside : Bool) : List Char → List Char × List Char
  | [] => ([], [])
  | c :: cs =>
    if c = ':' ∧ !inside then ([], c :: cs)
    else
      let inside := if c = '[' then true else if c = ']' then false else inside
      let (host, rest) := splitHost inside cs
      (c :: host, rest)

/-- Reads a port behind a host: nothing for the usual one or for no digits, and the characters
behind the port, which may start with a backslash only. -/
def readPort (usual : Option Nat) (cs : List Char) : Except Fault (Option Nat × List Char) :=
  match cs with
  | ':' :: cs =>
    let digits := cs.takeWhile isDigit
    let rest := cs.dropWhile isDigit
    let port := (value? 10 digits).getD 0
    if 65535 < port ∨ !(rest.isEmpty || rest.head? = some '\\') then .error .invalidPort
    else if digits.isEmpty || usual = some port then .ok (none, rest)
    else .ok (some port, rest)
  | cs => .ok (none, cs)

/-- Reads an authority whose text ends at `atEnd` the end of the URL or in front of its path: the
authority, and characters that belong to the path. -/
def readAuthority (kind : Kind) (atEnd : Bool) (cs : List Char) :
    Except Fault (Authority × List Char) := do
  let (username, password, cs) ←
    match splitLast '@' cs with
    | none => pure ([], [], cs)
    | some (credentials, rest) =>
      if credentials.isEmpty && rest.isEmpty && !atEnd then throw .emptyHost
      else
        let (username, password) := readCredentials credentials
        pure (username, password, rest)
  let (hostChars, rest) := splitHost false cs
  if kind.special && hostChars.isEmpty then throw .emptyHost
  let host ← if kind.special then readHost hostChars else readOpaqueHost hostChars
  if host = .empty && !rest.isEmpty then throw .emptyHost
  let usual :=
    match kind with
    | .network port => some port
    | _ => none
  let (port, rest) ← readPort usual rest
  let a : Authority := ⟨username, password, host, port⟩
  if host = .empty && !a.credentials.isEmpty then throw .emptyHost
  return (a, rest)

/-! ## Paths -/

/-- Whether a segment means the place itself. -/
def isDot (segment : List Char) : Bool :=
  let s := String.ofList (segment.map lowerAscii)
  s == "." || s == "%2e"

/-- Whether a segment means the place above. -/
def isDoubleDot (segment : List Char) : Bool :=
  let s := String.ofList (segment.map lowerAscii)
  s == ".." || s == ".%2e" || s == "%2e." || s == "%2e%2e"

/-- Whether a segment is the letter of a drive. -/
def isDrive : List Char → Bool
  | [c, d] => isLetter c && (d == ':' || d == '|')
  | _ => false

/-- Takes away the last segment, of segments with the last one first. -/
def dropSegment : List (List Char) → List (List Char)
  | [] => []
  | s :: before => if isDrive s then s :: before else before

/-- Whether a character is left out wherever it stands. -/
def isBreak (c : Char) : Bool := c == '\t' || c == '\n' || c == '\r'

/-- The characters of a text that count. -/
def withoutBreaks (cs : List Char) : List Char := cs.filter fun c => !isBreak c

/-- A drive, cut off by a tab or a line break, and the rest of its segment. -/
def cutDrive? (segment : List Char) : Option (List Char × List Char) :=
  match withoutBreaks segment, (segment.dropWhile (· != ':')).drop 1 with
  | c :: ':' :: d :: rest, b :: _ =>
    if isLetter c && isBreak b then some ([c, ':'], d :: rest) else none
  | _, _ => none

/-- Adds a segment to a path, of which the last one stands first. -/
def pushSegment (kind : Kind) (last : Bool) (before : List (List Char)) (segment : List Char) :
    List (List Char) :=
  let close (before : List (List Char)) := if last then [] :: before else before
  let plain := withoutBreaks segment
  match kind, before, cutDrive? segment with
  | .file, [], some (drive, rest) => [encode .path rest, drive]
  | _, _, _ =>
    if isDoubleDot plain then close (dropSegment before)
    else if isDot plain then close before
    else
      match kind, before, plain with
      | .file, [], [c, d] => if isDrive [c, d] then [[c, ':']] else [encode .path plain]
      | _, _, _ => encode .path plain :: before

/-- Adds segments to a path, of which the last one stands first. -/
def pushSegments (kind : Kind) (before : List (List Char)) : List (List Char) → List (List Char)
  | [] => before
  | [segment] => pushSegment kind true before segment
  | segment :: rest => pushSegments kind (pushSegment kind false before segment) rest

/-- The segments that a text writes. -/
def readSegments (kind : Kind) (cs : List Char) : List (List Char) :=
  (pushSegments kind [] (splitOn kind.separates cs)).reverse

/-- The list without its empty segments in front, but with one segment at least. -/
def dropEmpty (segments : List (List Char)) : List (List Char) :=
  match segments.dropWhile List.isEmpty with
  | [] => [[]]
  | rest => rest

/-- The path behind an authority; a path of a known structure has a segment at least. -/
def readPath (kind : Kind) (cs : List Char) : Path :=
  match cs with
  | [] => .segments (if kind.special then [[]] else [])
  | c :: rest => .segments (readSegments kind (if kind.separates c then rest else c :: rest))

/-! ## Files -/

/-- The authority of a file on the own machine. -/
def localAuthority : Authority := ⟨[], [], .empty, none⟩

/-- Whether one of the segments behind a path is a drive at the start of it. -/
def namesDrive (before : List (List Char)) : List (List Char) → Bool
  | [] => false
  | segment :: rest =>
    (before.isEmpty && isDrive (withoutBreaks segment)) ||
      namesDrive (pushSegment .file false before segment) rest

/-- The authority and the path of a file on the own machine. -/
def localFile (cs : List Char) : Authority × Path :=
  (localAuthority, .segments (dropEmpty (readSegments .file cs)))

/-- The authority and the path of a file on a machine. -/
def remoteFile (host : Host) (cs : List Char) : Authority × Path :=
  let host := if namesDrive [] (splitOn (Kind.separates .file) cs) then Host.empty else host
  (⟨[], [], host, none⟩, .segments (dropEmpty (readSegments .file cs)))

/-- The text behind the separator it starts with. -/
def behindSeparator? (cs : List Char) : Option (List Char) :=
  match cs.dropWhile isBreak with
  | c :: rest => if Kind.separates .file c then some rest else none
  | [] => none

/-- Reads the authority and the path of a file. -/
def readFile (cs : List Char) : Except Fault (Authority × Path) :=
  match behindSeparator? cs with
  | none => .ok (localFile cs)
  | some cs =>
    match behindSeparator? cs with
    | none => .ok (localFile cs)
    | some cs =>
      let name := withoutBreaks (cs.takeWhile fun c => !Kind.separates .file c)
      let path := cs.dropWhile fun c => !Kind.separates .file c
      if name.isEmpty || isDrive name then .ok (localFile cs)
      else
        match readHost name with
        | .error e => .error e
        | .ok host =>
          if host = .domain "localhost".toList then .ok (localFile path)
          else .ok (remoteFile host (path.drop 1))

/-! ## The whole URL -/

/-- Reads what stands between the scheme and the query: the authority and the path. -/
def readHierarchy (kind : Kind) (atEnd : Bool) (text : List Char) :
    Except Fault (Option Authority × Path) :=
  let withAuthority (cs : List Char) : Except Fault (Option Authority × Path) :=
    let path := cs.dropWhile fun c => !kind.endsAuthority c
    match readAuthority kind (atEnd && path.isEmpty) (cs.takeWhile fun c => !kind.endsAuthority c)
    with
    | .error e => .error e
    | .ok (a, extra) => .ok (some a, readPath kind (extra ++ path))
  match kind, withoutBreaks text with
  | .file, _ => (readFile text).map fun (a, path) => (some a, path)
  | .network _, cs => withAuthority (cs.dropWhile kind.separates)
  | .other, '/' :: '/' :: rest => withAuthority rest
  | .other, '/' :: rest => .ok (none, .segments (readSegments kind rest))
  | .other, cs => .ok (none, .opaquePath (encode .opaquePart cs))

/-- A text without the controls and blanks around it. -/
def trimControls (cs : List Char) : List Char :=
  let isEdge (c : Char) := decide (c.toNat ≤ 0x20)
  dropEnd isEdge (cs.dropWhile isEdge)

/-- Reads an absolute URL. -/
def parse (s : String) : Except Fault Url :=
  let text := trimControls s.toList
  match readScheme (withoutBreaks text) with
  | none => .error .relative
  | some (scheme, rest) =>
    let kind := Kind.ofScheme scheme
    let hierarchy := ((text.dropWhile (· != ':')).drop 1).takeWhile fun c => !endsPath c
    let tail := rest.dropWhile fun c => !endsPath c
    match readHierarchy kind tail.isEmpty hierarchy with
    | .error e => .error e
    | .ok (authority, path) =>
      let query :=
        match tail with
        | '?' :: cs =>
          some (encode (if kind.special then .specialQuery else .query) (cs.takeWhile (· != '#')))
        | _ => none
      let fragment :=
        match tail.dropWhile (· != '#') with
        | '#' :: cs => some (encode .fragment cs)
        | _ => none
      .ok ⟨scheme, authority, path, query, fragment⟩

end Url

end StatusRegistry

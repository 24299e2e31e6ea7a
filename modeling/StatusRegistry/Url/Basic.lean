import StatusRegistry.Url.Host

/-!
# URLs

The parts of a URL and its text.

* A URL has an authority or none, and a path that is a list of segments or one text that is not
  looked into.
* `Url.text` writes a path that starts with an empty segment behind `/.` if there is no authority,
  so that the segment is not taken for one.
-/

set_option autoImplicit false

namespace StatusRegistry

open Text

namespace Url

/-- Who serves a URL: a name and a password, a host, and a port that is not the usual one. -/
structure Authority where
  username : List Char
  password : List Char
  host : Host
  port : Option Nat
  deriving DecidableEq, Repr

/-- The path of a URL. -/
inductive Path where
  | segments (segments : List (List Char))
  | opaquePath (chars : List Char)
  deriving DecidableEq, Repr

end Url

/-- A URL. -/
structure Url where
  scheme : List Char
  authority : Option Url.Authority
  path : Url.Path
  query : Option (List Char)
  fragment : Option (List Char)
  deriving DecidableEq, Repr

namespace Url

/-- The text of a name and a password, with the sign that ends them. -/
def Authority.credentials (a : Authority) : List Char :=
  let password := if a.password.isEmpty then [] else ':' :: a.password
  if a.username.isEmpty && a.password.isEmpty then [] else a.username ++ password ++ ['@']

/-- The text of an authority. -/
def Authority.chars (a : Authority) : List Char :=
  let port :=
    match a.port with
    | some n => ':' :: decimal n
    | none => []
  '/' :: '/' :: a.credentials ++ a.host.chars ++ port

/-- The text of a path. -/
def Path.chars : Path → List Char
  | segments all => all.flatMap fun s => '/' :: s
  | opaquePath chars => chars

/-- Whether the text of a path starts with two slashes. -/
def Path.startsEmpty : Path → Bool
  | segments ([] :: _ :: _) => true
  | _ => false

/-- What stands between the scheme and the path. -/
def front (u : Url) : List Char :=
  match u.authority with
  | some a => a.chars
  | none => if u.path.startsEmpty then ['/', '.'] else []

/-- A part with the sign that begins it, if there is one. -/
def marked (mark : Char) : Option (List Char) → List Char
  | some cs => mark :: cs
  | none => []

/-- The characters of a URL. -/
def chars (u : Url) : List Char :=
  u.scheme ++ ':' :: u.front ++ u.path.chars ++ marked '?' u.query ++ marked '#' u.fragment

/-- The text of a URL. -/
def text (u : Url) : String := String.ofList u.chars

end Url

end StatusRegistry

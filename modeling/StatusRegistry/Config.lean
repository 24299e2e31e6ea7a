import StatusRegistry.Identity
import StatusRegistry.StatusList.Request
import StatusRegistry.Text.Blank
import StatusRegistry.Url.International
import StatusRegistry.Url.Reader

/-!
# Configuration

Where lists are published and what a list is made with when a request leaves it open.

* `Config.ofEnvironment` reads the three variables in a fixed order and reports the first that does
  not fit; one that is not set leaves the default.
-/

set_option autoImplicit false

namespace StatusRegistry

open Text Url

/-- Why a configuration is turned down. -/
inductive ConfigError where
  | invalidUrl (name reason : String)
  | invalidNumber (name value : String)
  deriving DecidableEq, Repr

/-- The wording of a configuration error. -/
def ConfigError.message : ConfigError → String
  | invalidUrl name reason => "invalid URL for " ++ name ++ ": " ++ reason
  | invalidNumber name value => "invalid number for " ++ name ++ ": " ++ quoted value

/-- A configuration. -/
structure Config where
  /-- The address under which lists are published, without a slash at its end. -/
  baseUrl : String
  /-- The capacity of lists made on demand. -/
  capacity : UInt64
  /-- The lifetime of lists made on demand, in milliseconds. -/
  ttl : Option Int64
  deriving DecidableEq

namespace Config

variable [DomainNames]

/-- The address under which lists are published unless another one is given. -/
def defaultBaseUrl : String := "http://localhost:3000"

/-- The configuration that needs nothing to be set. -/
def default : Config := ⟨defaultBaseUrl, minCapacity, none⟩

/-- The text of a URL without the slashes at its end. -/
def baseOf (u : Url) : String := String.ofList (dropEnd (· == '/') u.chars)

/-- The base that a text gives, under the name it is reported with. -/
def readBase (name text : String) : Except ConfigError String :=
  match Url.parse text with
  | .ok u => .ok (baseOf u)
  | .error e => .error (.invalidUrl name e.message)

/-- The configuration with another base. -/
def withBaseUrl (c : Config) (text : String) : Except ConfigError Config :=
  match readBase "base_url" text with
  | .ok baseUrl => .ok { c with baseUrl }
  | .error e => .error e

/-- The address of a list. -/
def listUrl (c : Config) (list : ListId) : String :=
  c.baseUrl ++ "/status-lists/" ++ list.text

/-! ## The environment -/

/-- The variables that configure the library; one that is not set is missing. -/
structure Environment where
  baseUrl : Option String
  capacity : Option String
  ttl : Option String

/-- The number that digits write, with a plus sign in front of them or none. -/
def unsigned? : List Char → Option Nat
  | '+' :: cs => if cs.all isDigit then value? 10 cs else none
  | cs => if cs.all isDigit then value? 10 cs else none

/-- The number that digits write, with a sign in front of them or none. -/
def signed? : List Char → Option Int
  | '-' :: cs => if cs.all isDigit then (value? 10 cs).map fun n => -(n : Int) else none
  | cs => (unsigned? cs).map fun n => (n : Int)

/-- The unsigned 64-bit number that a text gives. -/
def readUnsigned (s : String) : Option UInt64 :=
  match unsigned? (trim s.toList) with
  | some n => if n < 18446744073709551616 then some (.ofNat n) else none
  | none => none

/-- The signed 64-bit number that a text gives. -/
def readSigned (s : String) : Option Int64 :=
  match signed? (trim s.toList) with
  | some i =>
    if -9223372036854775808 ≤ i ∧ i ≤ 9223372036854775807 then some (.ofInt i) else none
  | none => none

/-- Reads a variable that holds a number, if it is set. -/
def readNumber {α : Type} (name : String) (read : String → Option α) :
    Option String → Except ConfigError (Option α)
  | none => .ok none
  | some s =>
    match read s with
    | some n => .ok (some n)
    | none => .error (.invalidNumber name s)

/-- The configuration that an environment gives. -/
def ofEnvironment (e : Environment) : Except ConfigError Config := do
  let baseUrl ← readBase "STATUS_LIST_BASE_URL" (e.baseUrl.getD defaultBaseUrl)
  let capacity ← readNumber "STATUS_LIST_TOTAL_ENTRIES" readUnsigned e.capacity
  let ttl ← readNumber "STATUS_LIST_TTL_MS" readSigned e.ttl
  return ⟨baseUrl, capacity.getD minCapacity, ttl⟩

end Config

end StatusRegistry

import StatusRegistry.Identity
import StatusRegistry.Instant.Reader

/-!
# Verifiable credentials

The envelope in which status lists are published.  The subject is left open: a status list
credential has a status list there, and other documents any value.

* A context and a type are a single text or a list, an issuer is a text or a profile.
* Members that the envelope does not name are passed over, so a verifier can read any conforming
  document; a proof is kept as it is.
-/

set_option autoImplicit false

namespace StatusRegistry

/-! ## Parts of the envelope -/

/-- The contexts of a document. -/
inductive Context where
  | single (uri : String)
  | several (items : List Json)
  deriving Inhabited

namespace Context

/-- The context that defines the terms of status lists. -/
def base : Context := several [.string "https://www.w3.org/ns/credentials/v2"]

/-- Reads contexts from a document. -/
def ofJson : Reader Context
  | .string uri => .ok (single uri)
  | .array items => .ok (several items)
  | _ => .error (.noForm "ContextValue")

/-- Contexts in a document. -/
def toJson : Context → Json
  | single uri => .string uri
  | several items => .array items

end Context

/-- The types of a credential. -/
inductive CredentialType where
  | single (name : String)
  | several (names : List String)
  deriving DecidableEq, Inhabited

namespace CredentialType

/-- Whether a type is among those of a credential. -/
def contains (type : CredentialType) (name : String) : Bool :=
  match type with
  | single n => n == name
  | several names => names.contains name

/-- The type that every credential has. -/
def verifiable : String := "VerifiableCredential"

/-- Reads types from a document. -/
def ofJson : Reader CredentialType
  | .string name => .ok (single name)
  | j =>
    match Reader.list Reader.string j with
    | .ok names => .ok (several names)
    | .error _ => .error (.noForm "CredentialTypeValue")

/-- Types in a document. -/
def toJson : CredentialType → Json
  | single name => .string name
  | several names => .array (names.map .string)

end CredentialType

/-- What a document tells of its issuer. -/
structure IssuerProfile where
  id : String
  name : Option String
  url : Option String
  deriving DecidableEq

namespace IssuerProfile

/-- The name and the number of fields of a profile. -/
def shape : Shape := ⟨"IssuerProfile", 3⟩

/-- Reads a profile from the members of an object. -/
def ofMembers (ms : Json.Members) : Except ReadError IssuerProfile := do
  let id ← ms.field? "id" Reader.string
  let name ← ms.optional "name" Reader.string
  let url ← ms.optional "url" Reader.string
  return ⟨← require "id" id, name, url⟩

/-- Reads a profile from the items of an array. -/
def ofItems (items : List Json) : Except ReadError IssuerProfile := do
  let id ← shape.item items 0 Reader.string
  let name ← Shape.optional items 1 Reader.string
  let url ← Shape.optional items 2 Reader.string
  shape.close items
  return ⟨id, name, url⟩

/-- Reads a profile from a document. -/
def ofJson : Reader IssuerProfile := shape.read ofMembers ofItems

/-- A profile in a document. -/
def toJson (p : IssuerProfile) : Json :=
  Json.record [("id", some (.string p.id)), ("name", p.name.map .string),
    ("url", p.url.map .string)]

end IssuerProfile

/-- The issuer of a document. -/
inductive Issuer where
  | id (text : String)
  | profile (profile : IssuerProfile)
  deriving DecidableEq

namespace Issuer

/-- The identifier of an issuer, in whichever form it is given. -/
def text : Issuer → String
  | id text => text
  | profile p => p.id

/-- Reads an issuer from a document. -/
def ofJson : Reader Issuer
  | .string text => .ok (id text)
  | j =>
    match IssuerProfile.ofJson j with
    | .ok p => .ok (profile p)
    | .error _ => .error (.noForm "Issuer")

/-- An issuer in a document. -/
def toJson : Issuer → Json
  | id text => .string text
  | profile p => p.toJson

end Issuer

/-! ## The envelope -/

/-- A verifiable credential about a subject. -/
structure Credential (Subject : Type) where
  context : Context
  id : Option String
  type : CredentialType
  issuer : Issuer
  validFrom : Option Instant
  validUntil : Option Instant
  subject : Subject
  proof : Option Json

namespace Credential

variable {Subject : Type}

/-- Whether the time in which a credential is valid has ended; its end is no longer part of it. -/
def expired (c : Credential Subject) (now : Instant) : Bool :=
  match c.validUntil with
  | some last => decide (last ≤ now)
  | none => false

/-- The name and the number of fields of a credential. -/
def shape : Shape := ⟨"VerifiableCredential", 8⟩

/-- Reads a credential from the members of an object. -/
def ofMembers (readSubject : Reader Subject) (ms : Json.Members) :
    Except ReadError (Credential Subject) := do
  let context ← ms.field? "@context" Context.ofJson
  let subject ← ms.field? "credentialSubject" readSubject
  let id ← ms.optional "id" Reader.string
  let issuer ← ms.field? "issuer" Issuer.ofJson
  let proof ← ms.optional "proof" Reader.any
  let type ← ms.field? "type" CredentialType.ofJson
  let validFrom ← ms.optional "validFrom" Instant.ofJson
  let validUntil ← ms.optional "validUntil" Instant.ofJson
  let context ← require "@context" context
  let type ← require "type" type
  let issuer ← require "issuer" issuer
  let subject ← require "credentialSubject" subject
  return ⟨context, id, type, issuer, validFrom, validUntil, subject, proof⟩

/-- Reads a credential from the items of an array. -/
def ofItems (readSubject : Reader Subject) (items : List Json) :
    Except ReadError (Credential Subject) := do
  let context ← shape.item items 0 Context.ofJson
  let id ← Shape.optional items 1 Reader.string
  let type ← shape.item items 2 CredentialType.ofJson
  let issuer ← shape.item items 3 Issuer.ofJson
  let validFrom ← Shape.optional items 4 Instant.ofJson
  let validUntil ← Shape.optional items 5 Instant.ofJson
  let subject ← shape.item items 6 readSubject
  let proof ← Shape.optional items 7 Reader.any
  shape.close items
  return ⟨context, id, type, issuer, validFrom, validUntil, subject, proof⟩

/-- Reads a credential from a document. -/
def ofJson (readSubject : Reader Subject) : Reader (Credential Subject) :=
  shape.read (ofMembers readSubject) (ofItems readSubject)

/-- A credential in a document. -/
def toJson (subjectToJson : Subject → Json) (c : Credential Subject) : Json :=
  Json.record
    [("@context", some c.context.toJson), ("id", c.id.map .string),
      ("type", some c.type.toJson), ("issuer", some c.issuer.toJson),
      ("validFrom", c.validFrom.map Instant.toJson),
      ("validUntil", c.validUntil.map Instant.toJson),
      ("credentialSubject", some (subjectToJson c.subject)), ("proof", c.proof)]

end Credential

end StatusRegistry

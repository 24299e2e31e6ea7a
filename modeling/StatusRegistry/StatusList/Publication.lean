import StatusRegistry.Document.Status
import StatusRegistry.StatusList.Basic

/-!
# Published status lists

How a status list becomes a document.  The width and the meaning of the codes are published only
for slots of more than one bit; the document is valid from the making of the list, and until the
end of its lifetime if it has one.
-/

set_option autoImplicit false

namespace StatusRegistry

namespace StatusList

/-- The codes of a width, in ascending order. -/
def codes (width : SlotWidth) : List UInt8 := (List.range width.codeCount).map UInt8.ofNat

/-- One message for each code, in ascending order, with the labels of the purpose. -/
def defaultMessages (l : StatusList) : List StatusMessage :=
  (codes l.width).map fun code => .ofCode code (l.purpose.label code)

/-- Whether slots have more than one bit. -/
def multiBit (l : StatusList) : Bool := l.width != .one

/-- The list as the subject of a credential that is not published yet. -/
def subject (l : StatusList) : ListSubject :=
  { id := none
    type := ListSubject.typeName
    purpose := l.purpose
    encodedList := l.encodedList
    ttl := l.ttl
    width := if l.multiBit then some l.width else none
    messages := if l.multiBit then some l.defaultMessages else none }

/-- The credential in which the list is published under an address, without a proof. -/
def credential (l : StatusList) (issuer : Issuer) (url : String) : ListCredential :=
  { context := .base
    id := some url
    type := .several [CredentialType.verifiable, ListCredential.typeName]
    issuer
    validFrom := some l.createdAt.instant
    validUntil := l.validUntil.map Timestamp.instant
    subject := { l.subject with id := some (url ++ "#list") }
    proof := none }

end StatusList

end StatusRegistry

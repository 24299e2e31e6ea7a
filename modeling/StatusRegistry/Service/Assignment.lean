import StatusRegistry.Service.Lists
import StatusRegistry.StatusList.Publication

/-!
# The service of credentials

Giving credentials their slots, and publishing claims and lists.

* A credential that has an entry for the purpose gets that entry, so asking again after a lost
  answer never takes a second slot.
* An attempt is lost only if the chosen list fills up before the entry is written; `assign` gives
  up after `maxAttempts` of them.
-/

set_option autoImplicit false

namespace StatusRegistry

namespace Service

/-- The greatest number of attempts to find a slot. -/
def maxAttempts : Nat := 32

/-- What a credential is to be given: a slot in a list of a group. -/
structure Assignment where
  credential : CredentialId
  issuer : IssuerId
  purpose : Purpose
  width : SlotWidth
  deriving DecidableEq

/-- Chooses a list of the group and its next slot.  If the list has filled up meanwhile, a new one
is made; if that has filled up too, there is no choice. -/
def chooseSlot (c : Config) (a : Assignment) : Service (Option (ListId × UInt64)) := do
  let l ← findOrCreate c a.issuer a.purpose a.width
  match ← nextIndex l.id with
  | some index => return some (l.id, index)
  | none =>
    let l ← createList c (groupRequest a.issuer a.purpose a.width)
    match ← nextIndex l.id with
    | some index => return some (l.id, index)
    | none => return none

/-- The entry that a choice asks for. -/
def entryRequest (a : Assignment) (list : ListId) (index : UInt64) : EntryRequest :=
  ⟨a.credential, list, index, a.width, a.purpose⟩

/-- Makes one attempt: an entry, or nothing if the attempt is lost. -/
def attempt (c : Config) (a : Assignment) : Service (Option StatusEntry) := do
  match ← chooseSlot c a with
  | none => return none
  | some (list, index) =>
    match ← ExceptT.lift (Program.request (.createEntry (entryRequest a list index))) with
    | .ok e => return some e
    | .error (.duplicate _ _) => findEntry a.credential a.purpose
    | .error e => if e.isRace then return none else throw (.ofStore e)

/-- Makes attempts until one is not lost. -/
def attempts (c : Config) (a : Assignment) : Nat → Service StatusEntry
  | 0 => throw (.exhausted maxAttempts)
  | n + 1 => do
    match ← attempt c a with
    | some e => return e
    | none => attempts c a n

/-- Gives a credential a slot in a list of a group, unless it has one for the purpose. -/
def assign (c : Config) (credential : CredentialId) (issuer : IssuerId) (purpose : Purpose)
    (width : Option UInt32) : Service StatusEntry := do
  let width ← check (SlotWidth.ofRequest width)
  match ← findEntry credential purpose with
  | some e => return e
  | none => attempts c ⟨credential, issuer, purpose, width⟩ maxAttempts

/-- The claim of an entry, to be put into a credential before it is signed. -/
def claim (c : Config) (e : StatusEntry) : StatusClaim :=
  let url := c.listUrl e.list
  let index := Text.decimalText e.index.toNat
  { id := some (url ++ "#" ++ index)
    type := StatusClaim.typeName
    purpose := e.purpose
    indexText := index
    width := some e.width
    listUrl := url }

/-- The credential in which a list is published, without a proof. -/
def listCredential (c : Config) (list : ListId) (issuer : Issuer) :
    Service (Option ListCredential) := do
  match ← findList list with
  | none => return none
  | some l => return some (l.credential issuer (c.listUrl list))

end Service

end StatusRegistry

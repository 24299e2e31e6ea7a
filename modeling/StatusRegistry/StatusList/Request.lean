import StatusRegistry.Identity
import StatusRegistry.Purpose
import StatusRegistry.Width

/-!
# Requests for status lists

What a caller asks for when a list is to be made, in the loose types that callers send, and the
plan that a request stands for once its bounds are checked and its defaults are filled in.

* `ListRequest.plan` checks the width first, then the capacity, then the lifetime.
* `planTtl_eq_ok`: an accepted lifetime is at most `maxTtl`.
-/

set_option autoImplicit false

namespace StatusRegistry

/-- The least capacity of a list: enough credentials for one to hide among. -/
def minCapacity : UInt64 := 131072

/-- The greatest capacity of a list. -/
def maxCapacity : UInt64 := 16777216

/-- The longest lifetime in milliseconds: 100 years of 365 days. -/
def maxTtl : UInt64 := 3153600000000

/-- A request for a status list. -/
structure ListRequest where
  issuer : IssuerId
  purpose : Purpose
  width : Option UInt32
  capacity : Option UInt64
  ttl : Option Int64
  metadata : Option Json.Members

/-- What a request comes to: every default filled in and every bound checked. -/
structure ListPlan where
  width : SlotWidth
  capacity : UInt64
  ttl : Option UInt64
  deriving DecidableEq

/-- The capacity that a request asks for; one that names none asks for the least. -/
def planCapacity (requested : Option UInt64) : Except ValidationError UInt64 :=
  let capacity := requested.getD minCapacity
  if capacity < minCapacity then .error (.capacityBelowMinimum capacity.toNat)
  else if maxCapacity < capacity then
    .error (.capacityAboveMaximum capacity.toNat maxCapacity.toNat)
  else .ok capacity

/-- The lifetime that a request asks for. -/
def planTtl : Option Int64 → Except ValidationError (Option UInt64)
  | none => .ok none
  | some ms =>
    if ms.toInt < 0 then .error (.negativeTtl ms.toInt)
    else if (maxTtl.toNat : Int) < ms.toInt then .error (.ttlTooLong ms.toInt maxTtl.toNat)
    else .ok (some (.ofNat ms.toInt.toNat))

namespace ListRequest

/-- A request that names only what it has to. -/
def simple (issuer : IssuerId) (purpose : Purpose) : ListRequest :=
  ⟨issuer, purpose, none, none, none, none⟩

/-- What a request comes to, or the first reason to turn it down. -/
def plan (r : ListRequest) : Except ValidationError ListPlan := do
  let width ← SlotWidth.ofRequest r.width
  let capacity ← planCapacity r.capacity
  let ttl ← planTtl r.ttl
  return ⟨width, capacity, ttl⟩

/-! ## Documents -/

/-- The name and the number of fields of a request. -/
def shape : Shape := ⟨"CreateStatusListParams", 6⟩

/-- Reads a request from the members of an object. -/
def ofMembers (ms : Json.Members) : Except ReadError ListRequest := do
  let issuer ← ms.field? "issuerId" IssuerId.ofJson
  let metadata ← ms.optional "metadata" Reader.members
  let purpose ← ms.field? "purpose" Purpose.ofJson
  let width ← ms.optional "statusSize" Reader.u32
  let capacity ← ms.optional "totalEntries" Reader.u64
  let ttl ← ms.optional "ttl" Reader.i64
  let issuer ← require "issuerId" issuer
  let purpose ← require "purpose" purpose
  return ⟨issuer, purpose, width, capacity, ttl, metadata⟩

/-- Reads a request from the items of an array. -/
def ofItems (items : List Json) : Except ReadError ListRequest := do
  let issuer ← shape.item items 0 IssuerId.ofJson
  let purpose ← shape.item items 1 Purpose.ofJson
  let width ← Shape.optional items 2 Reader.u32
  let capacity ← Shape.optional items 3 Reader.u64
  let ttl ← Shape.optional items 4 Reader.i64
  let metadata ← Shape.optional items 5 Reader.members
  shape.close items
  return ⟨issuer, purpose, width, capacity, ttl, metadata⟩

/-- Reads a request from a document. -/
def ofJson : Reader ListRequest := shape.read ofMembers ofItems

/-- A request in a document; what it leaves open is null. -/
def toJson (r : ListRequest) : Json :=
  Json.record
    [("issuerId", some r.issuer.toJson), ("purpose", some r.purpose.toJson),
      ("statusSize", some (.ofOption (r.width.map fun n => .nat n.toNat))),
      ("totalEntries", some (.ofOption (r.capacity.map fun n => .nat n.toNat))),
      ("ttl", some (.ofOption (r.ttl.map fun n => .int n.toInt))),
      ("metadata", some (.ofOption (r.metadata.map .object)))]

end ListRequest

/-! ## Small facts -/

theorem planTtl_eq_ok {requested : Option Int64} {ttl : UInt64}
    (h : planTtl requested = .ok (some ttl)) : ttl ≤ maxTtl := by
  have hmax : maxTtl.toNat = 3153600000000 := rfl
  match requested with
  | none => cases h
  | some ms =>
    simp only [planTtl] at h
    split at h
    · cases h
    · split at h
      · cases h
      · rename_i hneg hle
        simp only [Except.ok.injEq, Option.some.injEq] at h
        subst h
        apply UInt64.le_iff_toNat_le.mpr
        rw [UInt64.toNat_ofNat']
        omega

theorem planCapacity_eq_ok {requested : Option UInt64} {capacity : UInt64}
    (h : planCapacity requested = .ok capacity) :
    minCapacity ≤ capacity ∧ capacity ≤ maxCapacity := by
  unfold planCapacity at h
  simp only at h
  split at h
  · cases h
  · split at h
    · cases h
    · rename_i hlow hhigh
      cases h
      exact ⟨UInt64.not_lt.mp hlow, UInt64.not_lt.mp hhigh⟩

end StatusRegistry

import StatusRegistry.Json.Reading

/-!
# Slot widths

How many bits a slot of a status list has.  Only the divisors of eight are widths, so no slot
crosses the end of a byte.

* `bits_dvd` is that fact;
* `check_eq_ok_iff`: a code fits a width iff it is at most the greatest code of the width.
-/

set_option autoImplicit false

namespace StatusRegistry

/-- The number of bits of a slot. -/
inductive SlotWidth where
  | one
  | two
  | four
  | eight
  deriving DecidableEq, Hashable, Repr, Inhabited

namespace SlotWidth

/-- All widths, in ascending order. -/
def all : List SlotWidth := [one, two, four, eight]

/-- The number of bits. -/
def bits : SlotWidth → Nat
  | one => 1
  | two => 2
  | four => 4
  | eight => 8

/-- The number of codes that fit. -/
def codeCount (w : SlotWidth) : Nat := Nat.pow 2 w.bits

/-- The greatest code that fits. -/
def maxCode (w : SlotWidth) : Nat := w.codeCount - 1

/-- The width of a given number of bits. -/
def ofBits (bits : Nat) : Except ValidationError SlotWidth :=
  if bits = 1 then .ok one
  else if bits = 2 then .ok two
  else if bits = 4 then .ok four
  else if bits = 8 then .ok eight
  else .error (.invalidWidth bits)

/-- The width a request asks for; to ask for none, or for zero bits, is to ask for one bit. -/
def ofRequest : Option UInt32 → Except ValidationError SlotWidth
  | none => .ok one
  | some n => if n = 0 then .ok one else ofBits n.toNat

/-- A code as it is stored, if it fits. -/
def check (w : SlotWidth) (code : UInt32) : Except ValidationError UInt8 :=
  if code.toNat ≤ w.maxCode then .ok (.ofNat code.toNat)
  else .error (.codeOutOfRange code.toNat w.bits)

/-- Reads a width from a document, as a number of bits. -/
def ofJson : Reader SlotWidth := fun j => do
  match ofBits (← Reader.u32 j).toNat with
  | .ok w => return w
  | .error e => throw (.rejected e)

/-- A width in a document. -/
def toJson (w : SlotWidth) : Json := .nat w.bits

theorem bits_pos (w : SlotWidth) : 0 < w.bits := by cases w <;> decide

theorem bits_le (w : SlotWidth) : w.bits ≤ 8 := by cases w <;> decide

theorem bits_dvd (w : SlotWidth) : w.bits ∣ 8 := by cases w <;> decide

theorem maxCode_lt (w : SlotWidth) : w.maxCode < 256 := by cases w <;> decide

@[simp] theorem ofBits_bits (w : SlotWidth) : ofBits w.bits = .ok w := by cases w <;> rfl

theorem ofBits_eq_ok_iff {n : Nat} {w : SlotWidth} : ofBits n = .ok w ↔ n = w.bits := by
  constructor
  · intro h
    unfold ofBits at h
    repeat' split at h
    all_goals first
      | (cases h; assumption)
      | cases h
  · rintro rfl
    exact ofBits_bits w

theorem check_eq_ok_iff {w : SlotWidth} {code : UInt32} {c : UInt8} :
    w.check code = .ok c ↔ code.toNat ≤ w.maxCode ∧ c.toNat = code.toNat := by
  have hlt := w.maxCode_lt
  unfold check
  split
  · rename_i h
    have hto : (UInt8.ofNat code.toNat).toNat = code.toNat := by
      simp only [UInt8.toNat_ofNat']
      omega
    constructor
    · intro he
      cases he
      exact ⟨h, hto⟩
    · intro he
      congr 1
      apply UInt8.toNat_inj.mp
      omega
  · rename_i h
    simp [h]

end SlotWidth

end StatusRegistry

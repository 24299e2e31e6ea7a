import StatusRegistry.Instant.Reader

/-!
# Timestamps

The instants at which lists and entries are created and changed.  Every operation that makes a
timestamp drops the fraction of a second; a timestamp that is read from a document keeps what the
document says.

* `ofInstant_whole`, `addMillis?_whole`: made timestamps are whole seconds.
-/

set_option autoImplicit false

namespace StatusRegistry

/-- When something was created or changed. -/
structure Timestamp where
  instant : Instant
  deriving DecidableEq, Inhabited

namespace Timestamp

instance : LT Timestamp := ⟨fun a b => a.instant < b.instant⟩

instance : LE Timestamp := ⟨fun a b => a.instant ≤ b.instant⟩

instance (a b : Timestamp) : Decidable (a < b) :=
  inferInstanceAs (Decidable (a.instant < b.instant))

instance (a b : Timestamp) : Decidable (a ≤ b) :=
  inferInstanceAs (Decidable (a.instant ≤ b.instant))

/-- A timestamp without a fraction. -/
def Whole (t : Timestamp) : Prop := t.instant.nanos = 0

/-- The timestamp of an instant, to the second. -/
def ofInstant (t : Instant) : Timestamp := ⟨t.wholeSecond⟩

/-- The timestamp a number of milliseconds later, to the second, unless that is past the last
instant. -/
def addMillis? (t : Timestamp) (millis : Nat) : Option Timestamp :=
  (t.instant.addMillis? millis).map ofInstant

/-- The text of a timestamp to the second. -/
def text (t : Timestamp) : String := t.instant.secondText

/-- Reads a timestamp from a document, with its fraction. -/
def ofJson : Reader Timestamp := fun j => (Instant.ofJson j).map Timestamp.mk

/-- A timestamp in a document. -/
def toJson (t : Timestamp) : Json := t.instant.toJson

theorem ofInstant_whole (t : Instant) : (ofInstant t).Whole := rfl

theorem addMillis?_whole {t u : Timestamp} {millis : Nat} (h : t.addMillis? millis = some u) :
    u.Whole := by
  obtain ⟨v, _, rfl⟩ := Option.map_eq_some_iff.mp h
  exact ofInstant_whole v

end Timestamp

end StatusRegistry

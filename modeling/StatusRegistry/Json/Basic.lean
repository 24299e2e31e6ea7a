import StatusRegistry.Number.Binary64

/-!
# JSON values

The value type of documents.  Whole numbers and floating-point numbers are two kinds of value:
`1` and `1.0` are told apart everywhere.  An object is a list of its members; documents that this
library writes list them in ascending order of their names.

* `lookup?_insert_self`, `lookup?_insert_of_ne` say what adding a member does to a search.
-/

set_option autoImplicit false

namespace StatusRegistry

/-- A JSON value. -/
inductive Json where
  | null
  | bool (value : Bool)
  | int (value : Int)
  | float (value : Binary64)
  | string (value : String)
  | array (items : List Json)
  | object (members : List (String × Json))
  deriving Repr, Inhabited

namespace Json

/-- The members of an object. -/
abbrev Members := List (String × Json)

namespace Members

/-- The first value listed under a name. -/
def lookup? (name : String) : Members → Option Json
  | [] => none
  | (n, v) :: rest => if n = name then some v else lookup? name rest

/-- Puts a member in front of the first one with a greater name; a member with the same name is
replaced. -/
def insert (name : String) (value : Json) : Members → Members
  | [] => [(name, value)]
  | (n, v) :: rest =>
    if name = n then (name, value) :: rest
    else if name < n then (name, value) :: (n, v) :: rest
    else (n, v) :: insert name value rest

/-- The members in ascending order of their names; of several with one name the last stays. -/
def sorted (members : Members) : Members :=
  members.foldl (fun done m => done.insert m.1 m.2) []

@[simp] theorem lookup?_insert_self (name : String) (value : Json) (ms : Members) :
    (ms.insert name value).lookup? name = some value := by
  induction ms with
  | nil => simp [insert, lookup?]
  | cons m rest ih =>
    obtain ⟨n, v⟩ := m
    simp only [insert]
    split
    · simp [lookup?]
    · split
      · simp [lookup?]
      · rename_i h _
        simp [lookup?, Ne.symm h, ih]

@[simp] theorem lookup?_insert_of_ne {name other : String} (h : other ≠ name) (value : Json)
    (ms : Members) : (ms.insert name value).lookup? other = ms.lookup? other := by
  induction ms with
  | nil => simp [insert, lookup?, Ne.symm h]
  | cons m rest ih =>
    obtain ⟨n, v⟩ := m
    simp only [insert]
    split
    · rename_i he
      subst he
      simp [lookup?, Ne.symm h]
    · split
      · simp [lookup?, Ne.symm h]
      · simp only [lookup?, ih]

end Members

/-- An object of the members that have a value, in ascending order of their names. -/
def record (members : List (String × Option Json)) : Json :=
  object (Members.sorted (members.filterMap fun m => m.2.map fun v => (m.1, v)))

/-- A count as a JSON number. -/
def nat (n : Nat) : Json := int (n : Int)

/-- An optional value, with null for a missing one. -/
def ofOption : Option Json → Json
  | none => null
  | some j => j

end Json

end StatusRegistry

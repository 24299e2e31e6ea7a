import StatusRegistry.Json.Reading

/-!
# Records read back

What a reader finds in an object that was written as a record, and what it takes for a reader to
undo a writer.

* `Members.lookup?_written`: a search in a written record finds the member that was given;
* `Reader.Undoes`: a reader gives back every value as it was written;
* `field?_written`, `optional_written`: required and optional members of a written record.
-/

set_option autoImplicit false

namespace StatusRegistry

namespace Json

/-! ## Searching written records -/

/-- The value that is given for a name: that of the first member of this name, if it has one. -/
def given? (name : String) : List (String × Option Json) → Option Json
  | [] => none
  | (n, v) :: rest => if n = name then v else given? name rest

namespace Members

/-- The members of a record as they are written. -/
def written (members : List (String × Option Json)) : Members :=
  sorted (members.filterMap fun m => m.2.map fun v => (m.1, v))

theorem lookup?_eq_none {name : String} {ms : Members} (h : name ∉ ms.map Prod.fst) :
    ms.lookup? name = none := by
  induction ms with
  | nil => rfl
  | cons m ms ih =>
    obtain ⟨n, v⟩ := m
    simp only [List.map_cons, List.mem_cons, not_or] at h
    simp only [lookup?, if_neg (Ne.symm h.1), ih h.2]

/-- Sorting members with distinct names does not change what is found under a name. -/
theorem lookup?_foldl_insert {ms : Members} (h : (ms.map Prod.fst).Nodup) (done : Members)
    (name : String) :
    (ms.foldl (fun done m => done.insert m.1 m.2) done).lookup? name =
      (ms.lookup? name).or (done.lookup? name) := by
  induction ms generalizing done with
  | nil => rfl
  | cons m ms ih =>
    obtain ⟨n, v⟩ := m
    rw [List.map_cons, List.nodup_cons] at h
    rw [List.foldl_cons, ih h.2]
    by_cases hn : n = name
    · subst hn
      simp [lookup?, lookup?_eq_none h.1]
    · simp [lookup?, hn, Ne.symm hn]

theorem sublist_names (members : List (String × Option Json)) :
    ((members.filterMap fun m => m.2.map fun v => (m.1, v)).map Prod.fst).Sublist
      (members.map Prod.fst) := by
  induction members with
  | nil => exact .slnil
  | cons m members ih =>
    obtain ⟨n, v⟩ := m
    cases v with
    | none => exact ih.cons n
    | some v => exact ih.cons_cons n

theorem lookup?_filterMap {members : List (String × Option Json)}
    (h : (members.map Prod.fst).Nodup) (name : String) :
    lookup? name (members.filterMap fun m => m.2.map fun v => (m.1, v)) = given? name members := by
  induction members with
  | nil => rfl
  | cons m members ih =>
    obtain ⟨n, v⟩ := m
    rw [List.map_cons, List.nodup_cons] at h
    cases v with
    | some v =>
      simp only [List.filterMap_cons, Option.map_some, lookup?, given?, ih h.2]
    | none =>
      simp only [List.filterMap_cons, Option.map_none, given?]
      split
      · rename_i hn
        subst hn
        exact lookup?_eq_none fun hmem => h.1 ((sublist_names members).subset hmem)
      · exact ih h.2

/-- **A search in a written record finds what was given for the name.** -/
theorem lookup?_written {members : List (String × Option Json)}
    (h : (members.map Prod.fst).Nodup) (name : String) :
    (written members).lookup? name = given? name members := by
  have hnodup := (sublist_names members).nodup h
  unfold written sorted
  rw [lookup?_foldl_insert hnodup, lookup?_filterMap h]
  simp [lookup?]

end Members

end Json

/-! ## Reading what was written -/

namespace Reader

variable {α : Type}

/-- A reader gives back every value as it was written, and no value is written as null. -/
structure Undoes (read : Reader α) (write : α → Json) : Prop where
  read_write : ∀ a, read (write a) = .ok a
  ne_null : ∀ a, write a ≠ .null

theorem string_undoes : Undoes string .string :=
  ⟨fun _ => rfl, fun _ h => nomatch h⟩

theorem integer_nat {kind : IntegerKind} {n : Nat} (hlow : kind.least = 0)
    (hhigh : (n : Int) ≤ kind.greatest) : integer kind (.nat n) = .ok (n : Int) :=
  if_pos ⟨hlow ▸ Int.natCast_nonneg n, hhigh⟩

theorem u32_nat {n : Nat} (h : n ≤ 4294967295) : u32 (.nat n) = .ok (.ofNat n) := by
  have hfit : (n : Int) ≤ IntegerKind.u32.greatest := Int.ofNat_le.mpr h
  unfold u32
  rw [integer_nat rfl hfit]
  rfl

theorem boolean_undoes : Undoes boolean .bool :=
  ⟨fun _ => rfl, fun _ h => nomatch h⟩

theorem members_undoes : Undoes members .object :=
  ⟨fun _ => rfl, fun _ h => nomatch h⟩

/-- A number without a sign is read back if its type holds no number outside its kind. -/
theorem unsigned_undoes {kind : IntegerKind} (hlow : kind.least = 0) {toNat : α → Nat}
    {ofNat : Nat → α} (hhigh : ∀ a, (toNat a : Int) ≤ kind.greatest)
    (hofNat : ∀ a, ofNat (toNat a) = a) :
    Undoes (fun j => (integer kind j).map fun i => ofNat i.toNat) fun a => .nat (toNat a) := by
  refine ⟨?_, fun _ h => nomatch h⟩
  intro a
  simp only [integer_nat hlow (hhigh a), Except.map, Int.toNat_natCast, hofNat]

theorem u8_undoes : Undoes u8 fun n => .nat n.toNat :=
  unsigned_undoes rfl (fun n => Int.ofNat_le.mpr (Nat.le_of_lt_succ n.toNat_lt))
    fun _ => UInt8.ofNat_toNat

theorem u32_undoes : Undoes u32 fun n => .nat n.toNat :=
  unsigned_undoes rfl (fun n => Int.ofNat_le.mpr (Nat.le_of_lt_succ n.toNat_lt))
    fun _ => UInt32.ofNat_toNat

theorem u64_undoes : Undoes u64 fun n => .nat n.toNat :=
  unsigned_undoes rfl (fun n => Int.ofNat_le.mpr (Nat.le_of_lt_succ n.toNat_lt))
    fun _ => UInt64.ofNat_toNat

theorem i64_undoes : Undoes i64 fun n => .int n.toInt := by
  refine ⟨?_, fun _ h => nomatch h⟩
  intro n
  have hlow : IntegerKind.i64.least ≤ n.toInt := n.le_toInt
  have hhigh : n.toInt ≤ IntegerKind.i64.greatest := Int.le_of_lt_add_one n.toInt_lt
  have hread : integer .i64 (.int n.toInt) = .ok n.toInt := if_pos ⟨hlow, hhigh⟩
  simp only [i64, hread, Except.map, Int64.ofInt_toInt]

/-- A value in a wrapper is read back as the value is. -/
theorem Undoes.map {β : Type} {read : Reader α} {write : α → Json} (h : Undoes read write)
    {wrap : α → β} {unwrap : β → α} (hwrap : ∀ b, wrap (unwrap b) = b) :
    Undoes (fun j => (read j).map wrap) fun b => write (unwrap b) := by
  refine ⟨fun b => ?_, fun b => h.ne_null (unwrap b)⟩
  simp only [h.read_write, Except.map, hwrap]

theorem list_undoes {read : Reader α} {write : α → Json} (h : Undoes read write) :
    Undoes (list read) fun as => .array (as.map write) := by
  refine ⟨?_, fun _ h => nomatch h⟩
  intro as
  show (as.map write).mapM read = .ok as
  induction as with
  | nil => rfl
  | cons a as ih =>
    simp only [List.map_cons, List.mapM_cons, h.read_write a, ih]
    rfl

theorem optional_write {read : Reader α} {write : α → Json} (h : Undoes read write) (a : α) :
    optional read (write a) = .ok (some a) := by
  have hread := h.read_write a
  have hnull := h.ne_null a
  unfold optional
  split
  · rename_i heq
    exact absurd heq hnull
  · rw [hread]
    rfl

end Reader

/-! ## Members of written records -/

namespace Json.Members

variable {α : Type} {members : List (String × Option Json)} {read : Reader α} {write : α → Json}

/-- A required member is read from what was given for it. -/
theorem field?_given (hnames : (members.map Prod.fst).Nodup) {name : String} {j : Json} {a : α}
    (hgiven : given? name members = some j) (hread : read j = .ok a) :
    (written members).field? name read = .ok (some a) := by
  unfold field?
  rw [lookup?_written hnames, hgiven]
  simp only [hread]
  rfl

/-- A required member is read as it was written. -/
theorem field?_written (hnames : (members.map Prod.fst).Nodup) (h : Reader.Undoes read write)
    {name : String} {a : α} (hgiven : given? name members = some (write a)) :
    (written members).field? name read = .ok (some a) :=
  field?_given hnames hgiven (h.read_write a)

/-- A member that may be missing is read as it was written, or left out. -/
theorem optional_written (hnames : (members.map Prod.fst).Nodup) (h : Reader.Undoes read write)
    {name : String} {a : Option α} (hgiven : given? name members = a.map write) :
    (written members).optional name read = .ok a := by
  unfold optional
  rw [lookup?_written hnames, hgiven]
  cases a with
  | none => rfl
  | some a => exact Reader.optional_write h a

/-- A member that may be null is read as it was written. -/
theorem optional_written_null (hnames : (members.map Prod.fst).Nodup)
    (h : Reader.Undoes read write) {name : String} {a : Option α}
    (hgiven : given? name members = some (.ofOption (a.map write))) :
    (written members).optional name read = .ok a := by
  unfold optional
  rw [lookup?_written hnames, hgiven]
  cases a with
  | none => rfl
  | some a => exact Reader.optional_write h a

end Json.Members

end StatusRegistry

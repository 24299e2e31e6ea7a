import StatusRegistry.Proofs.Steps
import StatusRegistry.Proofs.Text.Numeral
import StatusRegistry.Proofs.Uuid
import StatusRegistry.Store.Row

/-!
# What a reason tells

An outcome tells that a record is missing by its reason, in which the words "not found" are looked
for.  Here it is settled which texts of the program can hold these words: of all that is put into a
reason, only what comes from outside.

* `Silent`: texts in which the words neither stand nor begin, so that what follows decides;
* `silent_uuid`, `silent_decimal`: identifiers and numbers are silent;
* `silent_of_apply`: so is every refusal of a change by its entry or its list;
* `tells_database_iff`: a fault of the database tells what the server says;
* `tells_toEntry_iff`, `tells_toList_iff`: a row that stands for no record is reported in silence,
  unless the purpose that it holds is the reason.
-/

set_option autoImplicit false

namespace StatusRegistry

open Text

namespace UpdateResult

/-! ## Words in a reason -/

/-- The reason says that something was not found. -/
def Tells (reason : String) : Prop := occursIn "not found".toList reason.toList = true

/-- A text in which the words neither stand nor begin. -/
def Silent (s : String) : Prop :=
  ∀ back, occursIn "not found".toList (s.toList ++ back) = occursIn "not found".toList back

theorem isNotFound_failed_iff {reason : String} :
    (failed reason).isNotFound = true ↔ Tells reason :=
  Iff.rfl

/-- Behind a silent text the rest decides. -/
theorem Silent.tells_append_iff {front back : String} (h : Silent front) :
    Tells (front ++ back) ↔ Tells back := by
  unfold Tells
  rw [String.toList_append, h]

theorem Silent.not_tells {s : String} (h : Silent s) : ¬ Tells s := by
  have hnone := h []
  rw [List.append_nil] at hnone
  rw [Tells, hnone]
  exact Bool.false_ne_true

theorem Silent.append {s t : String} (hs : Silent s) (ht : Silent t) : Silent (s ++ t) := by
  intro back
  rw [String.toList_append, List.append_assoc, hs, ht]

/-- Nothing that starts with another character is found in front. -/
theorem occursIn_skip {first : Char} {part front back : List Char} (h : ∀ c ∈ front, c ≠ first) :
    occursIn (first :: part) (front ++ back) = occursIn (first :: part) back := by
  induction front with
  | nil => rfl
  | cons c front ih =>
    have hne : first ≠ c := Ne.symm (h c (List.mem_cons_self ..))
    rw [List.cons_append, occursIn, ih fun d hd => h d (List.mem_cons_of_mem c hd)]
    simp [List.isPrefixOf, hne]

theorem silent_of_forall_ne {s : String} (h : ∀ c ∈ s.toList, c ≠ 'n') : Silent s :=
  fun _ => occursIn_skip h

theorem silent_decimal (n : Nat) : Silent (decimalText n) := by
  refine silent_of_forall_ne fun c hc hn => ?_
  rw [toList_decimalText] at hc
  have hdigit := isDigit_of_mem_decimal hc
  rw [hn] at hdigit
  exact absurd hdigit (by decide)

/-- The text of a UUID has digits and hyphens only. -/
theorem uuid_plain {u : Uuid} {c : Char} (hc : c ∈ u.text.toList) : c ≠ 'n' ∧ c ≠ 'o' := by
  have hdigits : ∀ {c}, c ∈ u.digits → c ≠ 'n' ∧ c ≠ 'o' := by
    intro c hc
    obtain ⟨d, hd, rfl⟩ := Uuid.exists_digit hc
    have : ∀ k : Fin 16, digitChar k.val ≠ 'n' ∧ digitChar k.val ≠ 'o' := by decide
    exact this ⟨d, hd⟩
  have hhyphen : '-' ≠ 'n' ∧ '-' ≠ 'o' := by decide
  rw [Uuid.toList_text, Uuid.groups] at hc
  simp only [List.append_assoc, List.cons_append, List.mem_append, List.mem_cons] at hc
  rcases hc with hc | rfl | hc | rfl | hc | rfl | hc | rfl | hc
  · exact hdigits (List.mem_of_mem_take hc)
  · exact hhyphen
  · exact hdigits (List.mem_of_mem_drop (List.mem_of_mem_take hc))
  · exact hhyphen
  · exact hdigits (List.mem_of_mem_drop (List.mem_of_mem_take hc))
  · exact hhyphen
  · exact hdigits (List.mem_of_mem_drop (List.mem_of_mem_take hc))
  · exact hhyphen
  · exact hdigits (List.mem_of_mem_drop hc)

theorem silent_uuid (u : Uuid) : Silent u.text :=
  silent_of_forall_ne fun _ hc => (uuid_plain hc).1

/-- Behind ", not " the words could go on with an `f`, which is a digit, but not with an `o`. -/
theorem silent_not_uuid (u : Uuid) : Silent (", not " ++ u.text) := by
  obtain ⟨c, d, rest, htext⟩ : ∃ c d rest, u.text.toList = c :: d :: rest := by
    have hlength := u.length_groups
    rw [← Uuid.toList_text] at hlength
    match u.text.toList, hlength with
    | c :: d :: rest, _ => exact ⟨c, d, rest, rfl⟩
  have hsecond : 'o' ≠ d := Ne.symm (uuid_plain (u := u) (by simp [htext])).2
  intro back
  rw [String.toList_append, List.append_assoc]
  have hgoes : ∀ tail, occursIn "not found".toList (", not ".toList ++ tail) =
      ("found".toList.isPrefixOf tail || occursIn "not found".toList tail) := fun _ => rfl
  have hstops : "found".toList.isPrefixOf (u.text.toList ++ back) = false := by
    simp [htext, List.isPrefixOf, hsecond]
  rw [hgoes, hstops, Bool.false_or, silent_uuid]

/-! ## Missing records -/

theorem isNotFound_entryNotFound (credential : CredentialId) (purpose : Purpose) :
    (entryNotFound credential purpose).isNotFound = true := by
  unfold isNotFound entryNotFound failed
  simp only [String.toList_append, List.append_assoc]
  rfl

theorem isNotFound_listNotFound (list : ListId) : (listNotFound list).isNotFound = true := by
  unfold isNotFound listNotFound failed
  simp only [String.toList_append]
  rfl

/-! ## Refusals -/

/-- Two numbers between silent texts. -/
theorem silent_numbers {front middle back : String} (hfront : Silent front)
    (hmiddle : Silent middle) (hback : Silent back) (m n : Nat) :
    Silent (front ++ decimalText m ++ middle ++ decimalText n ++ back) :=
  (((hfront.append (silent_decimal m)).append hmiddle).append (silent_decimal n)).append hback

theorem silent_codeOutOfRange (code bits : Nat) :
    Silent (ValidationError.codeOutOfRange code bits).message :=
  silent_numbers (fun _ => rfl) (fun _ => rfl) (fun _ => rfl) code bits

theorem silent_indexOutOfRange (index capacity : Nat) :
    Silent (ValidationError.indexOutOfRange index capacity).message :=
  silent_numbers (fun _ => rfl) (fun _ => rfl) (fun _ => rfl) index capacity

/-- A text that stands for no bitstring is refused in silence. -/
theorem silent_of_decode {text : String} {cause : CodecError}
    (h : Bitstring.decode text = .error cause) : Silent cause.message := by
  unfold Bitstring.decode at h
  split at h
  · cases h
    exact fun _ => rfl
  · split at h
    · cases h
    · rename_i fault _
      cases h
      have hstream : Silent "encodedList is not a valid GZIP stream: " := fun _ => rfl
      cases fault with
      | tooLong =>
        have hfront : Silent "decoded bitstring exceeds " := fun _ => rfl
        have hback : Silent " bytes" := fun _ => rfl
        exact (hfront.append (silent_decimal _)).append hback
      | _ => exact hstream.append fun _ => rfl

theorem silent_of_writeSlot {data : ByteArray} {index : Nat} {width : SlotWidth} {code : UInt8}
    {cause : CodecError} (h : Bitstring.writeSlot data index width code = .error cause) :
    Silent cause.message := by
  unfold Bitstring.writeSlot Bitstring.checkSlot at h
  split at h
  · cases h
    exact silent_numbers (fun _ => rfl) (fun _ => rfl) (fun _ => rfl) _ _
  · split at h
    · rename_i hslot
      cases h
      dsimp only at hslot
      split at hslot
      · cases hslot
      · cases hslot
        exact silent_numbers (fun _ => rfl) (fun _ => rfl) (fun _ => rfl) _ _
    · cases h

/-- What a list refuses, it refuses in silence. -/
theorem silent_of_setStatus {l : StatusList} {index : UInt64} {status : UInt32} {now : Timestamp}
    {cause : ListError} (h : l.setStatus index status now = .error cause) :
    Silent cause.message := by
  have hcodec : Silent "bitstring codec error: " := fun _ => rfl
  unfold StatusList.setStatus StatusList.checkIndex SlotWidth.check at h
  split at h
  · rename_i hindex
    cases h
    split at hindex
    · cases hindex
    · cases hindex
      exact silent_indexOutOfRange _ _
  split at h
  · rename_i hcode
    cases h
    split at hcode
    · cases hcode
    · cases hcode
      exact silent_codeOutOfRange _ _
  split at h
  · rename_i hdata
    cases h
    exact hcodec.append (silent_of_decode hdata)
  split at h
  · rename_i hwrite
    cases h
    exact hcodec.append (silent_of_writeSlot hwrite)
  · cases h

/-- **A change that an entry or its list refuses is refused in silence.** -/
theorem silent_of_apply {e : StatusEntry} {l : StatusList} {status : UInt32} {now : Timestamp}
    {cause : ListError} (h : e.apply l status now = .error cause) : Silent cause.message := by
  unfold StatusEntry.apply at h
  split at h
  · cases h
    have hfront : Silent "status entry belongs to list " := fun _ => rfl
    have hback := (hfront.append (silent_uuid e.list.uuid)).append (silent_not_uuid l.id.uuid)
    rw [← String.append_assoc] at hback
    exact hback
  · split at h
    · rename_i hset
      cases h
      exact silent_of_setStatus hset
    · cases h

/-! ## Faults and rows -/

/-- A fault of the database tells what the server's own message tells. -/
theorem tells_database_iff {fault : DatabaseFault} :
    Tells (StoreError.database fault).message ↔
      ∃ code message, fault = .refused code message ∧ Tells message := by
  have hfront : Silent "database error: " := fun _ => rfl
  refine hfront.tells_append_iff.trans ?_
  cases fault with
  | refused code message =>
    have hserver : Silent "error returned from database: " := fun _ => rfl
    refine hserver.tells_append_iff.trans ?_
    constructor
    · exact fun h => ⟨code, message, rfl, h⟩
    · rintro ⟨_, _, ⟨⟩, h⟩
      exact h
  | noConnection =>
    have hnone : ¬ Tells "pool timed out while waiting for an open connection" := by
      unfold Tells
      decide
    refine iff_of_false hnone ?_
    rintro ⟨_, _, ⟨⟩, -⟩

theorem tells_corrupt_iff {table : TableName} {id : Uuid} {reason : String} :
    Tells (StoreError.corrupt table id reason).message ↔ Tells reason := by
  have hcorrupt : Silent "corrupt " := fun _ => rfl
  have htable : Silent table.text := by
    cases table with
    | lists => exact fun _ => rfl
    | entries => exact fun _ => rfl
  have hrow : Silent " row " := fun _ => rfl
  have hcolon : Silent ": " := fun _ => rfl
  exact ((((hcorrupt.append htable).append hrow).append (silent_uuid id)).append
    hcolon).tells_append_iff

theorem silent_of_narrow {α : Type} {greatest : Nat} {i : Int} {f : Nat → α} {reason : String}
    (h : (narrow greatest i).map f = .error reason) : Silent reason := by
  unfold narrow at h
  split at h
  · cases h
    exact fun _ => rfl
  · split at h
    · cases h
      exact fun _ => rfl
    · cases h

theorem silent_of_optional {i : Option Int64} {reason : String}
    (h : i.mapM narrow64 = .error reason) : Silent reason := by
  cases i with
  | none => cases h
  | some i =>
    have hsome : (some i).mapM narrow64 = (narrow64 i).map some := rfl
    rw [hsome] at h
    cases hread : narrow64 i with
    | error e =>
      rw [hread] at h
      cases h
      exact silent_of_narrow hread
    | ok n =>
      rw [hread] at h
      cases h

theorem silent_of_widthOfColumn {i : Int16} {reason : String}
    (h : widthOfColumn i = .error reason) : Silent reason := by
  unfold widthOfColumn at h
  rcases bind_eq_error_iff.mp h with h | ⟨bits, -, h⟩
  · exact silent_of_narrow (f := id) (by rw [h]; rfl)
  · obtain ⟨cause, hcause, rfl⟩ := mapError_eq_error_iff.mp h
    unfold SlotWidth.ofBits at hcause
    repeat' split at hcause
    all_goals cases hcause
    have hwidth : Silent "statusSize must be between 1 and 8 bits" := fun _ => rfl
    exact hwidth

theorem message_of_purpose {s reason : String}
    (h : (Purpose.ofText s).mapError ValidationError.message = .error reason) :
    reason = "Invalid status purpose: " ++ s := by
  obtain ⟨cause, hcause, rfl⟩ := mapError_eq_error_iff.mp h
  unfold Purpose.ofText at hcause
  repeat' split at hcause
  all_goals cases hcause
  rfl

/-- The first reason for which a row stands for no entry is silent, or names its purpose. -/
theorem reason_of_entry {row : EntryRow} {reason : String} (h : row.record = .error reason) :
    Silent reason ∨ reason = "Invalid status purpose: " ++ row.purpose := by
  rcases bind_eq_error_iff.mp h with h | ⟨credential, -, h⟩
  · obtain ⟨cause, hcause, rfl⟩ := mapError_eq_error_iff.mp h
    unfold CredentialId.ofText at hcause
    split at hcause
    · cases hcause
    · cases hcause
      exact .inl fun _ => rfl
  rcases bind_eq_error_iff.mp h with h | ⟨index, -, h⟩
  · exact .inl (silent_of_narrow h)
  rcases bind_eq_error_iff.mp h with h | ⟨width, -, h⟩
  · exact .inl (silent_of_widthOfColumn h)
  rcases bind_eq_error_iff.mp h with h | ⟨purpose, -, h⟩
  · exact .inr (message_of_purpose h)
  rcases bind_eq_error_iff.mp h with h | ⟨status, -, h⟩
  · exact .inl (silent_of_narrow h)
  · cases h

/-- The first reason for which a row stands for no list is silent, or names its purpose. -/
theorem reason_of_list {row : ListRow} {reason : String} (h : row.record = .error reason) :
    Silent reason ∨ reason = "Invalid status purpose: " ++ row.purpose := by
  rcases bind_eq_error_iff.mp h with h | ⟨metadata, -, h⟩
  · unfold metadataOfColumn at h
    split at h
    all_goals cases h
    exact .inl fun _ => rfl
  rcases bind_eq_error_iff.mp h with h | ⟨issuer, -, h⟩
  · obtain ⟨cause, hcause, rfl⟩ := mapError_eq_error_iff.mp h
    unfold IssuerId.ofText at hcause
    split at hcause
    · cases hcause
    · cases hcause
      exact .inl fun _ => rfl
  rcases bind_eq_error_iff.mp h with h | ⟨purpose, -, h⟩
  · exact .inr (message_of_purpose h)
  rcases bind_eq_error_iff.mp h with h | ⟨width, -, h⟩
  · exact .inl (silent_of_widthOfColumn h)
  rcases bind_eq_error_iff.mp h with h | ⟨capacity, -, h⟩
  · exact .inl (silent_of_narrow h)
  rcases bind_eq_error_iff.mp h with h | ⟨used, -, h⟩
  · exact .inl (silent_of_narrow h)
  rcases bind_eq_error_iff.mp h with h | ⟨ttl, -, h⟩
  · exact .inl (silent_of_optional h)
  · cases h

/-- A row is reported by the words only if its purpose holds them. -/
theorem tells_reason_iff {purpose reason : String}
    (h : Silent reason ∨ reason = "Invalid status purpose: " ++ purpose) :
    Tells reason ↔ reason = "Invalid status purpose: " ++ purpose ∧ Tells purpose := by
  have hfront : Silent "Invalid status purpose: " := fun _ => rfl
  constructor
  · intro htells
    rcases h with h | rfl
    · exact absurd htells h.not_tells
    · exact ⟨rfl, hfront.tells_append_iff.mp htells⟩
  · rintro ⟨rfl, htells⟩
    exact hfront.tells_append_iff.mpr htells

theorem tells_toEntry_iff {row : EntryRow} {e : StoreError} (h : row.toEntry = .error e) :
    Tells e.message ↔
      e = .corrupt .entries row.id ("Invalid status purpose: " ++ row.purpose) ∧
        Tells row.purpose := by
  obtain ⟨reason, hreason, rfl⟩ := mapError_eq_error_iff.mp h
  rw [tells_corrupt_iff, tells_reason_iff (reason_of_entry hreason)]
  simp

theorem tells_toList_iff {row : ListRow} {e : StoreError} (h : row.toList = .error e) :
    Tells e.message ↔
      e = .corrupt .lists row.id ("Invalid status purpose: " ++ row.purpose) ∧
        Tells row.purpose := by
  obtain ⟨reason, hreason, rfl⟩ := mapError_eq_error_iff.mp h
  rw [tells_corrupt_iff, tells_reason_iff (reason_of_list hreason)]
  simp

end UpdateResult

end StatusRegistry

import StatusRegistry.Proofs.StatusList

/-!
# Runs of calls on one list

A list behind its compressed text is an array of codes with a count of the slots handed out.  The
calls that change a list are told as a history, and what the list answers is read off the history.

* `edit`: one call, which leaves the list as it is if it fails;
* `Run`: the histories of a list, with the list after them;
* `lastSet`, `slotsTaken`: what a history says of a slot and of the slots handed out;
* `Records`: what ties a list to its history, kept by every call (`Records.edit`) and so by every
  run (`Run.records`);
* `create_acts_as_array`: what a list that was made answers after every history.
-/

set_option autoImplicit false

namespace StatusRegistry

namespace StatusList

/-! ## Calls -/

/-- A call that changes a list. -/
inductive Edit where
  | setStatus (index : UInt64) (status : UInt32)
  | takeSlot
  | setTtl (ttl : Option Int64)
  | setMetadata (metadata : Option Json.Members)

/-- The answer to a call. -/
abbrev Edit.Answer : Edit → Type
  | setStatus _ _ => Except ListError UInt8
  | takeSlot => Option UInt64
  | setTtl _ => Except ValidationError Unit
  | setMetadata _ => Unit

/-- Carries out a call: its answer and the list after it. -/
def edit (l : StatusList) (now : Timestamp) : (call : Edit) → call.Answer × StatusList
  | .setStatus index status =>
    match l.setStatus index status now with
    | .error err => (.error err, l)
    | .ok (code, l') => (.ok code, l')
  | .takeSlot =>
    match l.takeSlot now with
    | none => (none, l)
    | some (index, l') => (some index, l')
  | .setTtl ttl =>
    match l.setTtl ttl now with
    | .error err => (.error err, l)
    | .ok l' => (.ok (), l')
  | .setMetadata metadata => ((), l.setMetadata metadata now)

/-- A call that was made, and its answer. -/
structure Event where
  call : Edit
  answer : call.Answer

/-- The list after each history of calls, the last call first. -/
inductive Run (l : StatusList) : List Event → StatusList → Prop
  | nil : Run l [] l
  | step {log : List Event} {l' : StatusList} (run : Run l log l') (now : Timestamp)
      (call : Edit) : Run l (⟨call, (l'.edit now call).1⟩ :: log) (l'.edit now call).2

/-- The code that a slot was last given, 0 if it was given none. -/
def lastSet (index : UInt64) : List Event → UInt32
  | [] => 0
  | ⟨.setStatus i status, .ok _⟩ :: log => if i = index then status else lastSet index log
  | _ :: log => lastSet index log

/-- The slots that were handed out, in their order. -/
def slotsTaken : List Event → List UInt64
  | [] => []
  | ⟨.takeSlot, some index⟩ :: log => slotsTaken log ++ [index]
  | _ :: log => slotsTaken log

/-! ## What each call does -/

section Calls

variable {l : StatusList}

theorem edit_setStatus_ok {l' : StatusList} {index : UInt64} {status : UInt32} {code : UInt8}
    {now : Timestamp} (h : l.setStatus index status now = .ok (code, l')) :
    l.edit now (.setStatus index status) = (.ok code, l') := by
  simp only [edit, h]

theorem edit_setStatus_error {index : UInt64} {status : UInt32} {err : ListError}
    {now : Timestamp} (h : l.setStatus index status now = .error err) :
    l.edit now (.setStatus index status) = (.error err, l) := by
  simp only [edit, h]

theorem edit_takeSlot (h : l.used < l.capacity) (now : Timestamp) :
    l.edit now .takeSlot = (some l.used, l.withSlotTaken now) := by
  simp only [edit, takeSlot_eq h]

theorem edit_takeSlot_full (h : ¬ l.used < l.capacity) (now : Timestamp) :
    l.edit now .takeSlot = (none, l) := by
  have hfull : l.takeSlot now = none := if_neg fun hroom => h (hasRoom_iff.mp hroom)
  simp only [edit, hfull]

theorem edit_setTtl_ok {ttl : Option Int64} {planned : Option UInt64}
    (h : planTtl ttl = .ok planned) (now : Timestamp) :
    l.edit now (.setTtl ttl) = (.ok (), { l with ttl := planned, updatedAt := now }) := by
  simp only [edit, setTtl, h]

theorem edit_setTtl_error {ttl : Option Int64} {err : ValidationError}
    (h : planTtl ttl = .error err) (now : Timestamp) :
    l.edit now (.setTtl ttl) = (.error err, l) := by
  simp only [edit, setTtl, h]

end Calls

/-! ## A list and its history -/

/-- A list is what its history says: of the width and capacity that it was made with, with the code
in each slot that the slot was last given, and with as many used slots as were handed out. -/
structure Records (p : ListPlan) (log : List Event) (l : StatusList) : Prop where
  sound : l.Sound
  capacity_eq : l.capacity = p.capacity
  width_eq : l.width = p.width
  code_eq : ∀ {data}, l.Holds data → ∀ {index : UInt64}, index < l.capacity →
    ∃ code, Bitstring.readSlot data index.toNat l.width = .ok code ∧
      code.toNat = (lastSet index log).toNat
  taken_eq : (slotsTaken log).map UInt64.toNat = List.range l.used.toNat

namespace Records

variable {p : ListPlan} {log : List Event} {l l' : StatusList}

/-- A list that was made has an empty history. -/
theorem create {r : ListRequest} {id : ListId} {now : Timestamp} (hp : r.plan = .ok p)
    (h : StatusList.create r id now = .ok l) : Records p [] l := by
  obtain ⟨hsound, -, hused, hholds⟩ := create_sound h
  obtain ⟨p', hp', hl⟩ := create_eq_ok h
  have heq : p' = p := by
    rw [hp] at hp'
    exact (Except.ok.inj hp').symm
  subst heq
  refine ⟨hsound, by rw [hl], by rw [hl], ?_, ?_⟩
  · intro data hdata index hindex
    have hslot := hdata.lt_slotCount hsound.le_maxCapacity hindex
    rw [hdata.unique hholds hsound.le_maxCapacity, Bitstring.size_zeroed] at hslot
    rw [hdata.unique hholds hsound.le_maxCapacity]
    exact ⟨0, Bitstring.readSlot_zeroed hslot, rfl⟩
  · rw [hused]
    rfl

/-- A history goes on with a call that touches neither the slots nor their number. -/
theorem untouched (h : Records p log l) (hcapacity : l'.capacity = l.capacity)
    (hwidth : l'.width = l.width) (hused : l'.used = l.used)
    (htext : l'.encodedList = l.encodedList) {log' : List Event}
    (hset : ∀ index, lastSet index log' = lastSet index log)
    (htaken : slotsTaken log' = slotsTaken log) : Records p log' l' := by
  have hholds : ∀ {data}, l'.Holds data → l.Holds data := fun hdata =>
    ⟨htext ▸ hdata.text_eq, by rw [hdata.size_eq, hcapacity, hwidth]⟩
  obtain ⟨data, hdata⟩ := h.sound.readable
  refine ⟨⟨?_, ?_, ?_, data, ?_⟩, hcapacity.trans h.capacity_eq, hwidth.trans h.width_eq, ?_, ?_⟩
  · rw [hcapacity]
    exact h.sound.minCapacity_le
  · rw [hcapacity]
    exact h.sound.le_maxCapacity
  · rw [hused, hcapacity]
    exact h.sound.used_le
  · exact ⟨htext.trans hdata.text_eq, by rw [hdata.size_eq, hcapacity, hwidth]⟩
  · intro data hdata index hindex
    rw [hcapacity] at hindex
    rw [hset, hwidth]
    exact h.code_eq (hholds hdata) hindex
  · rw [htaken, hused]
    exact h.taken_eq

/-- A code that was stored is the last one of its slot, and the other slots keep theirs. -/
theorem stored (h : Records p log l) {index : UInt64} {status : UInt32} {code : UInt8}
    {now : Timestamp} (hstored : l.Stored l' index status code now) :
    Records p (⟨.setStatus index status, .ok code⟩ :: log) l' := by
  have hsame := hstored.same
  refine ⟨hstored.sound h.sound, hsame.capacity_eq.trans h.capacity_eq,
    hsame.width_eq.trans h.width_eq, ?_, ?_⟩
  · intro found hfound other hother
    obtain ⟨data, hdata⟩ := h.sound.readable
    obtain ⟨data', hdata', hslot⟩ := hstored.bitstring data hdata
    rw [hfound.unique hdata' (hstored.sound h.sound).le_maxCapacity, hsame.width_eq]
    rw [hsame.capacity_eq] at hother
    by_cases heq : index = other
    · subst heq
      exact ⟨code, hslot.read_self, by rw [hstored.code_eq, lastSet, if_pos rfl]⟩
    · have hne : other.toNat ≠ index.toNat := fun htoNat => heq (UInt64.toNat_inj.mp htoNat).symm
      rw [hslot.read_other _ hne, lastSet, if_neg heq]
      exact h.code_eq hdata hother
  · rw [hstored.used_eq]
    exact h.taken_eq

/-- A slot that was handed out is the one behind those before it. -/
theorem taken (h : Records p log l) (hroom : l.used < l.capacity) (now : Timestamp) :
    Records p (⟨.takeSlot, some l.used⟩ :: log) (l.withSlotTaken now) := by
  refine ⟨h.sound.withSlotTaken hroom now, h.capacity_eq, h.width_eq, ?_, ?_⟩
  · intro data hdata index hindex
    exact h.code_eq ⟨hdata.text_eq, hdata.size_eq⟩ hindex
  · show (slotsTaken log ++ [l.used]).map UInt64.toNat = List.range (l.used + 1).toNat
    rw [toNat_used_succ hroom, List.range_succ, List.map_append, h.taken_eq]
    rfl

/-- **Every call goes down in the history of its list.** -/
theorem edit (h : Records p log l) (now : Timestamp) (call : Edit) :
    Records p (⟨call, (l.edit now call).1⟩ :: log) (l.edit now call).2 := by
  cases call with
  | setStatus index status =>
    by_cases hfit : index < l.capacity ∧ status.toNat ≤ l.width.maxCode
    · obtain ⟨code, l', hset, hstored⟩ := setStatus_ok h.sound hfit.1 hfit.2 now
      rw [edit_setStatus_ok hset]
      exact h.stored hstored
    · rw [edit_setStatus_error (setStatus_error hfit now)]
      exact h.untouched rfl rfl rfl rfl (fun _ => rfl) rfl
  | takeSlot =>
    by_cases hroom : l.used < l.capacity
    · rw [edit_takeSlot hroom]
      exact h.taken hroom now
    · rw [edit_takeSlot_full hroom]
      exact h.untouched rfl rfl rfl rfl (fun _ => rfl) rfl
  | setTtl ttl =>
    cases hplan : planTtl ttl with
    | error err =>
      rw [edit_setTtl_error hplan]
      exact h.untouched rfl rfl rfl rfl (fun _ => rfl) rfl
    | ok planned =>
      rw [edit_setTtl_ok hplan]
      refine h.untouched ?_ ?_ ?_ ?_ (fun _ => rfl) ?_ <;> rfl
  | setMetadata metadata => refine h.untouched ?_ ?_ ?_ ?_ (fun _ => rfl) ?_ <;> rfl

end Records

/-- What ties a list to its history holds after every run. -/
theorem Run.records {p : ListPlan} {l l' : StatusList} {log : List Event} (h : Records p [] l)
    (run : l.Run log l') : Records p log l' := by
  induction run with
  | nil => exact h
  | step _ now call ih => exact ih.edit now call

/-! ## What a list answers -/

/-- What a list with a history answers: it is an array of codes that forgets nothing, and it counts
the slots that it hands out. -/
structure ActsAsArray (p : ListPlan) (log : List Event) (l : StatusList) : Prop where
  /-- A slot reads as the code that it was last given. -/
  statusAt_inside : ∀ index, index < p.capacity →
    ∃ code, l.statusAt index = .ok code ∧ code.toNat = (lastSet index log).toNat
  /-- There are no slots but those of the capacity. -/
  statusAt_outside : ∀ index, ¬ index < p.capacity → l.statusAt index =
    .error (.validation (.indexOutOfRange index.toNat p.capacity.toNat))
  /-- A code is stored iff there is the slot and the code fits. -/
  setStatus_iff : ∀ now index status,
    (∃ code, (l.edit now (.setStatus index status)).1 = .ok code) ↔
      index < p.capacity ∧ status.toNat ≤ 2 ^ p.width.bits - 1
  /-- A code that is not stored leaves the list as it is; the index is asked about first. -/
  setStatus_refused : ∀ now index status err,
    (l.edit now (.setStatus index status)).1 = .error err →
      (l.edit now (.setStatus index status)).2 = l ∧
        err = .validation (if index < p.capacity then .codeOutOfRange status.toNat p.width.bits
          else .indexOutOfRange index.toNat p.capacity.toNat)
  /-- The slots handed out are those below the number of used slots, in ascending order. -/
  taken_eq : (slotsTaken log).map UInt64.toNat = List.range l.used.toNat
  /-- No slot is handed out iff all are used. -/
  takeSlot_full : ∀ now, (l.edit now .takeSlot).1 = none ↔ l.used = p.capacity

theorem statusAt_eq_ok {l : StatusList} {index : UInt64} {data : ByteArray} {code : UInt8}
    (hindex : index < l.capacity) (hdecode : Bitstring.decode l.encodedList = .ok data)
    (hread : Bitstring.readSlot data index.toNat l.width = .ok code) :
    l.statusAt index = .ok code := by
  unfold statusAt checkIndex
  simp only [if_pos hindex, hdecode, hread]

theorem statusAt_eq_error {l : StatusList} {index : UInt64} (hindex : ¬ index < l.capacity) :
    l.statusAt index = .error (.validation (.indexOutOfRange index.toNat l.capacity.toNat)) := by
  unfold statusAt checkIndex
  simp only [if_neg hindex]

/-- **A list that is what its history says answers as an array of codes.** -/
theorem Records.actsAsArray {p : ListPlan} {log : List Event} {l : StatusList}
    (h : Records p log l) : ActsAsArray p log l := by
  have hcapacity := h.capacity_eq
  have hwidth := h.width_eq
  constructor
  · intro index hindex
    rw [← hcapacity] at hindex
    obtain ⟨data, hdata⟩ := h.sound.readable
    obtain ⟨code, hread, hcode⟩ := h.code_eq hdata hindex
    exact ⟨code, statusAt_eq_ok hindex (hdata.decode_eq h.sound.le_maxCapacity) hread, hcode⟩
  · intro index hindex
    rw [← hcapacity] at hindex ⊢
    exact statusAt_eq_error hindex
  · intro now index status
    rw [← hcapacity, ← hwidth]
    by_cases hfit : index < l.capacity ∧ status.toNat ≤ l.width.maxCode
    · obtain ⟨code, l', hset, -⟩ := setStatus_ok h.sound hfit.1 hfit.2 now
      exact iff_of_true ⟨code, by rw [edit_setStatus_ok hset]⟩ hfit
    · refine iff_of_false ?_ hfit
      rintro ⟨code, hcode⟩
      rw [edit_setStatus_error (setStatus_error hfit now)] at hcode
      cases hcode
  · intro now index status err herr
    rw [← hcapacity, ← hwidth]
    by_cases hfit : index < l.capacity ∧ status.toNat ≤ l.width.maxCode
    · obtain ⟨code, l', hset, -⟩ := setStatus_ok h.sound hfit.1 hfit.2 now
      rw [edit_setStatus_ok hset] at herr
      cases herr
    · rw [edit_setStatus_error (setStatus_error hfit now)] at herr ⊢
      cases herr
      exact ⟨rfl, rfl⟩
  · exact h.taken_eq
  · intro now
    rw [← hcapacity]
    by_cases hroom : l.used < l.capacity
    · rw [edit_takeSlot hroom]
      exact iff_of_false (fun hnone => nomatch hnone) (UInt64.ne_of_lt hroom)
    · rw [edit_takeSlot_full hroom]
      exact iff_of_true rfl (UInt64.le_antisymm h.sound.used_le (UInt64.not_lt.mp hroom))

/-- **A list is an array of codes.**  It is made iff its request is in order; and after every
history of calls it reads in each slot the code that the slot was last given, it takes a code iff
there is the slot and the code fits, and it hands out its slots one after another until all are
used.  Its text is never to blame for anything. -/
theorem create_acts_as_array (r : ListRequest) (id : ListId) (now : Timestamp) :
    ((∃ l, create r id now = .ok l) ↔ ∃ p, r.plan = .ok p) ∧
      (∀ err, create r id now = .error err →
        ∃ cause, r.plan = .error cause ∧ err = .validation cause) ∧
      ∀ l p, create r id now = .ok l → r.plan = .ok p →
        ∀ log l', l.Run log l' → ActsAsArray p log l' := by
  refine ⟨?_, ?_, ?_⟩
  · constructor
    · rintro ⟨l, hl⟩
      obtain ⟨p, hp, -⟩ := create_eq_ok hl
      exact ⟨p, hp⟩
    · rintro ⟨p, hp⟩
      unfold create
      rw [hp]
      exact ⟨_, rfl⟩
  · intro err herr
    unfold create at herr
    split at herr
    · rename_i cause hplan
      cases herr
      exact ⟨cause, hplan, rfl⟩
    · cases herr
  · intro l p hl hp log l' hrun
    exact (hrun.records (.create hp hl)).actsAsArray

namespace Sample

/-- A request for a list with slots of two bits. -/
def request : ListRequest :=
  ⟨⟨"did:example:university", by decide⟩, .suspension, some 2, some 131077, none, none⟩

/-- What the request comes to. -/
def plan : ListPlan := ⟨.two, 131077, none⟩

end Sample

/-- In a list with slots of two bits, whose last byte is not full, the last slot is given code 3; it
reads as that code after another call, and there is no slot behind it. -/
theorem sample_acts_as_array :
    ∃ l l' code, create Sample.request ⟨.nil⟩ ⟨.epoch⟩ = .ok l ∧
      l.Run [⟨.setMetadata none, ()⟩, ⟨.setStatus 131076 3, .ok code⟩] l' ∧
      l'.statusAt 131076 = .ok 3 ∧
      l'.statusAt 131077 = .error (.validation (.indexOutOfRange 131077 131077)) := by
  have hplan : Sample.request.plan = .ok Sample.plan := by decide
  obtain ⟨l, hl⟩ := (create_acts_as_array Sample.request ⟨.nil⟩ ⟨.epoch⟩).1.mpr ⟨_, hplan⟩
  have hacts := (create_acts_as_array Sample.request ⟨.nil⟩ ⟨.epoch⟩).2.2 l Sample.plan hl hplan
  obtain ⟨code, hset⟩ :=
    ((hacts _ _ .nil).setStatus_iff ⟨.epoch⟩ 131076 3).mpr ⟨by decide, by decide⟩
  have hrun := (Run.nil.step ⟨.epoch⟩ (.setStatus 131076 3)).step (l := l) ⟨.epoch⟩
    (.setMetadata none)
  rw [hset] at hrun
  obtain ⟨read, hread, hcode⟩ := (hacts _ _ hrun).statusAt_inside 131076 (by decide)
  have hthree : read = 3 := UInt8.toNat_inj.mp hcode
  refine ⟨l, _, code, hl, hrun, ?_, (hacts _ _ hrun).statusAt_outside 131077 (by decide)⟩
  rw [hread, hthree]

end StatusList

end StatusRegistry

import StatusRegistry.Proofs.Bitstring.EncodedList
import StatusRegistry.Proofs.Bitstring.Slots
import StatusRegistry.StatusEntry

/-!
# Sound status lists

What every list that is made here satisfies, and that handing out slots and storing codes keep it:
the capacity is one that a request may ask for, no more slots are used than there are, and the text
stands for a bitstring of the length that the capacity asks for.

* `create_sound`: a list that is made is sound, and all its slots hold 0;
* `setStatus_ok`, `setStatus_error`: on a sound list a code is stored iff the index lies in the
  list and the code fits, and the text is never to blame;
* `StatusEntry.apply_ok`, `StatusEntry.apply_error`: the same for an entry and its list together.
-/

set_option autoImplicit false

namespace StatusRegistry

namespace StatusList

/-- The text of a list is the text of a bitstring of the length that its capacity asks for. -/
structure Holds (l : StatusList) (data : ByteArray) : Prop where
  text_eq : l.encodedList = Bitstring.encode data
  size_eq : data.size = Bitstring.bufferLength l.capacity l.width

/-- What every list that is made here satisfies. -/
structure Sound (l : StatusList) : Prop where
  minCapacity_le : minCapacity ≤ l.capacity
  le_maxCapacity : l.capacity ≤ maxCapacity
  used_le : l.used ≤ l.capacity
  readable : ∃ data, l.Holds data

/-! ## Lengths -/

theorem capacity_toNat_le {l : StatusList} (h : l.capacity ≤ maxCapacity) :
    l.capacity.toNat ≤ 16777216 := by
  have := UInt64.le_iff_toNat_le.mp h
  simpa [maxCapacity] using this

theorem bits_le_maxBits {l : StatusList} (h : l.capacity ≤ maxCapacity) :
    l.capacity.toNat * l.width.bits ≤ Bitstring.maxBits := by
  have hcapacity := capacity_toNat_le h
  have hbits := l.width.bits_le
  calc l.capacity.toNat * l.width.bits ≤ 16777216 * 8 := Nat.mul_le_mul hcapacity hbits
    _ ≤ Bitstring.maxBits := by decide

/-- The bitstring of a list that a request may ask for is within the limit of the reader. -/
theorem bufferLength_le {l : StatusList} (h : l.capacity ≤ maxCapacity) :
    Bitstring.bufferLength l.capacity l.width ≤ Bitstring.maxDecodedLength := by
  have hcapacity := capacity_toNat_le h
  have hbits := bits_le_maxBits h
  have hwidth := l.width.bits_le
  have hproduct : l.capacity.toNat * l.width.bits ≤ 16777216 * 8 :=
    Nat.mul_le_mul hcapacity hwidth
  unfold Bitstring.bufferLength Bitstring.maxDecodedLength
  rw [Nat.min_eq_left hbits]
  omega

/-- The text of a list reads back as its bitstring. -/
theorem Holds.decode_eq {l : StatusList} {data : ByteArray} (h : l.Holds data)
    (hle : l.capacity ≤ maxCapacity) : Bitstring.decode l.encodedList = .ok data := by
  rw [h.text_eq]
  exact Bitstring.decode_encode (h.size_eq ▸ bufferLength_le hle)

/-- A list stands for one bitstring. -/
theorem Holds.unique {l : StatusList} {data data' : ByteArray} (h : l.Holds data)
    (h' : l.Holds data') (hle : l.capacity ≤ maxCapacity) : data = data' := by
  have hdecode := h.decode_eq hle
  rw [h'.decode_eq hle] at hdecode
  exact (Except.ok.inj hdecode).symm

/-- Every index of a list has its slot in the bitstring. -/
theorem Holds.lt_slotCount {l : StatusList} {data : ByteArray} (h : l.Holds data)
    (hle : l.capacity ≤ maxCapacity) {index : UInt64} (hindex : index < l.capacity) :
    index.toNat < Bitstring.slotCount data.size l.width := by
  rw [h.size_eq]
  exact Nat.lt_of_lt_of_le (UInt64.lt_iff_toNat_lt.mp hindex)
    (Bitstring.le_slotCount_bufferLength (bits_le_maxBits hle))

/-- What the text of a list reads as is the bitstring of the list. -/
theorem Sound.holds_of_decode {l : StatusList} (hl : l.Sound) {data : ByteArray}
    (h : Bitstring.decode l.encodedList = .ok data) : l.Holds data := by
  obtain ⟨found, hfound⟩ := hl.readable
  have hdecode := hfound.decode_eq hl.le_maxCapacity
  rw [h] at hdecode
  cases hdecode
  exact hfound

/-! ## Making a list -/

theorem plan_eq_ok {r : ListRequest} {p : ListPlan} (h : r.plan = .ok p) :
    SlotWidth.ofRequest r.width = .ok p.width ∧ planCapacity r.capacity = .ok p.capacity ∧
      planTtl r.ttl = .ok p.ttl := by
  simp only [ListRequest.plan, bind, Except.bind, pure, Except.pure] at h
  split at h
  · cases h
  · rename_i width hwidth
    split at h
    · cases h
    · rename_i capacity hcapacity
      split at h
      · cases h
      · rename_i ttl httl
        cases h
        exact ⟨hwidth, hcapacity, httl⟩

/-- A lifetime within the bounds is accepted, and its number is kept. -/
theorem planTtl_ok {requested : Option Int64}
    (h : ∀ ms, requested = some ms → 0 ≤ ms.toInt ∧ ms.toInt ≤ maxTtl.toNat) :
    ∃ ttl, planTtl requested = .ok ttl ∧
      (ttl.map fun n => (n.toNat : Int)) = requested.map Int64.toInt := by
  cases requested with
  | none => exact ⟨none, rfl, rfl⟩
  | some ms =>
    have hmax : maxTtl.toNat = 3153600000000 := rfl
    obtain ⟨hlow, hhigh⟩ := h ms rfl
    have hkept : ((UInt64.ofNat ms.toInt.toNat).toNat : Int) = ms.toInt := by
      rw [UInt64.toNat_ofNat', Nat.mod_eq_of_lt (by omega)]
      omega
    refine ⟨some (.ofNat ms.toInt.toNat), ?_, congrArg some hkept⟩
    unfold planTtl
    simp only
    rw [if_neg (by omega), if_neg (by omega)]

/-- A lifetime is refused for being negative, and else for being too long. -/
theorem planTtl_error {ms : Int64} (h : ¬ (0 ≤ ms.toInt ∧ ms.toInt ≤ maxTtl.toNat)) :
    planTtl (some ms) = .error (if ms.toInt < 0 then .negativeTtl ms.toInt
      else .ttlTooLong ms.toInt maxTtl.toNat) := by
  unfold planTtl
  simp only
  by_cases hneg : ms.toInt < 0
  · rw [if_pos hneg, if_pos hneg]
  · rw [if_neg hneg, if_neg hneg, if_pos (by omega)]

/-- What a list that was made says of the request and of its making. -/
theorem create_eq_ok {r : ListRequest} {id : ListId} {now : Timestamp} {l : StatusList}
    (h : create r id now = .ok l) :
    ∃ p, r.plan = .ok p ∧
      l = { id, issuer := r.issuer, purpose := r.purpose, width := p.width,
            capacity := p.capacity, used := 0, encodedList := blankText p.capacity p.width,
            ttl := p.ttl, metadata := r.metadata, createdAt := now, updatedAt := now } := by
  unfold create at h
  split at h
  · cases h
  · rename_i p hp
    cases h
    exact ⟨p, hp, rfl⟩

/-- **A list that is made is sound, and all its slots hold 0.** -/
theorem create_sound {r : ListRequest} {id : ListId} {now : Timestamp} {l : StatusList}
    (h : create r id now = .ok l) :
    l.Sound ∧ l.id = id ∧ l.used = 0 ∧ l.Holds (Bitstring.zeroed l.capacity l.width) := by
  obtain ⟨p, hp, rfl⟩ := create_eq_ok h
  obtain ⟨hlow, hhigh⟩ := planCapacity_eq_ok (plan_eq_ok hp).2.1
  have hholds : (⟨id, r.issuer, r.purpose, p.width, p.capacity, 0, blankText p.capacity p.width,
      p.ttl, r.metadata, now, now⟩ : StatusList).Holds (Bitstring.zeroed p.capacity p.width) :=
    ⟨rfl, Bitstring.size_zeroed _ _⟩
  exact ⟨⟨hlow, hhigh, UInt64.zero_le, _, hholds⟩, rfl, rfl, hholds⟩

/-! ## What never changes -/

/-- Two records of one list: they differ in nothing that is fixed when a list is made. -/
structure Same (l l' : StatusList) : Prop where
  id_eq : l'.id = l.id
  issuer_eq : l'.issuer = l.issuer
  purpose_eq : l'.purpose = l.purpose
  width_eq : l'.width = l.width
  capacity_eq : l'.capacity = l.capacity
  createdAt_eq : l'.createdAt = l.createdAt

theorem Same.refl (l : StatusList) : l.Same l := ⟨rfl, rfl, rfl, rfl, rfl, rfl⟩

theorem Same.trans {l l' l'' : StatusList} (h : l.Same l') (h' : l'.Same l'') : l.Same l'' :=
  ⟨h'.id_eq.trans h.id_eq, h'.issuer_eq.trans h.issuer_eq, h'.purpose_eq.trans h.purpose_eq,
    h'.width_eq.trans h.width_eq, h'.capacity_eq.trans h.capacity_eq,
    h'.createdAt_eq.trans h.createdAt_eq⟩

/-! ## Handing out slots -/

/-- The list without its next slot. -/
def withSlotTaken (l : StatusList) (now : Timestamp) : StatusList :=
  { l with used := l.used + 1, updatedAt := now }

theorem hasRoom_iff {l : StatusList} : l.hasRoom = true ↔ l.used < l.capacity := by
  simp [hasRoom]

theorem takeSlot_eq {l : StatusList} (h : l.used < l.capacity) (now : Timestamp) :
    l.takeSlot now = some (l.used, l.withSlotTaken now) :=
  if_pos (hasRoom_iff.mpr h)

/-- The number of used slots does not run over. -/
theorem toNat_used_succ {l : StatusList} (h : l.used < l.capacity) :
    (l.used + 1).toNat = l.used.toNat + 1 := by
  have hlt := UInt64.lt_iff_toNat_lt.mp h
  have hmax := l.capacity.toNat_lt
  rw [UInt64.toNat_add, UInt64.toNat_one, Nat.mod_eq_of_lt (by omega)]

theorem same_withSlotTaken (l : StatusList) (now : Timestamp) : l.Same (l.withSlotTaken now) :=
  ⟨rfl, rfl, rfl, rfl, rfl, rfl⟩

theorem Sound.withSlotTaken {l : StatusList} (hl : l.Sound) (h : l.used < l.capacity)
    (now : Timestamp) : (l.withSlotTaken now).Sound := by
  refine ⟨hl.minCapacity_le, hl.le_maxCapacity, ?_, ?_⟩
  · apply UInt64.le_iff_toNat_le.mpr
    show (l.used + 1).toNat ≤ l.capacity.toNat
    rw [toNat_used_succ h]
    exact UInt64.lt_iff_toNat_lt.mp h
  · obtain ⟨data, hdata⟩ := hl.readable
    exact ⟨data, hdata.text_eq, hdata.size_eq⟩

/-! ## Storing codes -/

/-- What storing a code makes of a list. -/
structure Stored (l l' : StatusList) (index : UInt64) (status : UInt32) (code : UInt8)
    (now : Timestamp) : Prop where
  code_eq : code.toNat = status.toNat
  list_eq : l' = l.withEncodedList l'.encodedList now
  bitstring : ∀ data, l.Holds data →
    ∃ data', l'.Holds data' ∧ Bitstring.SlotSet data data' l.width index.toNat code

/-- **On a sound list a code that fits is stored at every index of the list.** -/
theorem setStatus_ok {l : StatusList} (hl : l.Sound) {index : UInt64} {status : UInt32}
    (hindex : index < l.capacity) (hstatus : status.toNat ≤ l.width.maxCode) (now : Timestamp) :
    ∃ code l', l.setStatus index status now = .ok (code, l') ∧
      l.Stored l' index status code now := by
  have hcodeLt := Nat.lt_of_le_of_lt hstatus l.width.maxCode_lt
  have hcodeNat : (UInt8.ofNat status.toNat).toNat = status.toNat := by
    rw [UInt8.toNat_ofNat', Nat.mod_eq_of_lt hcodeLt]
  have hcheck : l.width.check status = .ok (.ofNat status.toNat) :=
    SlotWidth.check_eq_ok_iff.mpr ⟨hstatus, hcodeNat⟩
  obtain ⟨data, hdata⟩ := hl.readable
  obtain ⟨data', hwrite, hset⟩ := Bitstring.writeSlot_ok
    (hdata.lt_slotCount hl.le_maxCapacity hindex)
    (show (UInt8.ofNat status.toNat).toNat ≤ l.width.maxCode by rw [hcodeNat]; exact hstatus)
  refine ⟨.ofNat status.toNat, l.withEncodedList (Bitstring.encode data') now, ?_, hcodeNat, rfl,
    ?_⟩
  · unfold setStatus checkIndex
    simp only [if_pos hindex, hcheck, hdata.decode_eq hl.le_maxCapacity, hwrite]
  · intro found hfound
    rw [hfound.unique hdata hl.le_maxCapacity]
    exact ⟨data', ⟨rfl, hset.size_eq.trans hdata.size_eq⟩, hset⟩

/-- Storing a code fails for an index past the end, and else for a code that does not fit. -/
theorem setStatus_error {l : StatusList} {index : UInt64} {status : UInt32}
    (h : ¬ (index < l.capacity ∧ status.toNat ≤ l.width.maxCode)) (now : Timestamp) :
    l.setStatus index status now =
      .error (.validation (if index < l.capacity then .codeOutOfRange status.toNat l.width.bits
        else .indexOutOfRange index.toNat l.capacity.toNat)) := by
  unfold setStatus checkIndex
  by_cases hindex : index < l.capacity
  · have hstatus : ¬ status.toNat ≤ l.width.maxCode := fun hle => h ⟨hindex, hle⟩
    simp only [if_pos hindex, SlotWidth.check, if_neg hstatus]
  · simp only [if_neg hindex]

/-- What a code that was stored says of the list, sound or not. -/
theorem setStatus_eq_ok {l l' : StatusList} {index : UInt64} {status : UInt32} {code : UInt8}
    {now : Timestamp} (h : l.setStatus index status now = .ok (code, l')) :
    code.toNat = status.toNat ∧ ∃ data data', Bitstring.decode l.encodedList = .ok data ∧
      Bitstring.writeSlot data index.toNat l.width code = .ok data' ∧
      l' = l.withEncodedList (Bitstring.encode data') now := by
  unfold setStatus at h
  split at h
  · cases h
  · split at h
    · cases h
    · rename_i code hcheck
      split at h
      · cases h
      · rename_i data hdata
        split at h
        · cases h
        · rename_i data' hwrite
          cases h
          exact ⟨(SlotWidth.check_eq_ok_iff.mp hcheck).2, data, data', hdata, hwrite, rfl⟩

/-- A code that was stored on a sound list was stored as it should be. -/
theorem stored_of_setStatus {l l' : StatusList} (hl : l.Sound) {index : UInt64} {status : UInt32}
    {code : UInt8} {now : Timestamp} (h : l.setStatus index status now = .ok (code, l')) :
    l.Stored l' index status code now := by
  by_cases hfit : index < l.capacity ∧ status.toNat ≤ l.width.maxCode
  · obtain ⟨code', l'', hset, hstored⟩ := setStatus_ok hl hfit.1 hfit.2 now
    rw [hset] at h
    cases h
    exact hstored
  · rw [setStatus_error hfit] at h
    cases h

theorem Stored.same {l l' : StatusList} {index : UInt64} {status : UInt32} {code : UInt8}
    {now : Timestamp} (h : l.Stored l' index status code now) : l.Same l' := by
  rw [h.list_eq]
  exact ⟨rfl, rfl, rfl, rfl, rfl, rfl⟩

theorem Stored.used_eq {l l' : StatusList} {index : UInt64} {status : UInt32} {code : UInt8}
    {now : Timestamp} (h : l.Stored l' index status code now) : l'.used = l.used := by
  rw [h.list_eq]
  rfl

theorem Stored.sound {l l' : StatusList} {index : UInt64} {status : UInt32} {code : UInt8}
    {now : Timestamp} (h : l.Stored l' index status code now) (hl : l.Sound) : l'.Sound := by
  obtain ⟨data, hdata⟩ := hl.readable
  obtain ⟨data', hdata', -⟩ := h.bitstring data hdata
  have hlist := h.list_eq
  refine ⟨?_, ?_, ?_, data', hdata'⟩
  · rw [hlist]; exact hl.minCapacity_le
  · rw [hlist]; exact hl.le_maxCapacity
  · rw [hlist]; exact hl.used_le

end StatusList

/-! ## Entries and their lists -/

namespace StatusEntry

/-- Two records of one entry: they differ in nothing that is fixed when an entry is made. -/
structure Same (e e' : StatusEntry) : Prop where
  id_eq : e'.id = e.id
  credential_eq : e'.credential = e.credential
  list_eq : e'.list = e.list
  index_eq : e'.index = e.index
  width_eq : e'.width = e.width
  purpose_eq : e'.purpose = e.purpose
  createdAt_eq : e'.createdAt = e.createdAt

theorem Same.refl (e : StatusEntry) : e.Same e := ⟨rfl, rfl, rfl, rfl, rfl, rfl, rfl⟩

theorem Same.trans {e e' e'' : StatusEntry} (h : e.Same e') (h' : e'.Same e'') : e.Same e'' :=
  ⟨h'.id_eq.trans h.id_eq, h'.credential_eq.trans h.credential_eq, h'.list_eq.trans h.list_eq,
    h'.index_eq.trans h.index_eq, h'.width_eq.trans h.width_eq,
    h'.purpose_eq.trans h.purpose_eq, h'.createdAt_eq.trans h.createdAt_eq⟩

/-- A code that fits is written into the slot of an entry and into the entry. -/
theorem apply_ok {e : StatusEntry} {l : StatusList} (hid : e.list = l.id) {code : UInt8}
    {l' : StatusList} {status : UInt32} {now : Timestamp}
    (h : l.setStatus e.index status now = .ok (code, l')) :
    e.apply l status now = .ok ({ e with status := code, updatedAt := l'.updatedAt }, l') := by
  unfold apply
  simp only [hid, ne_eq, not_true, if_false, h]

/-- An entry is changed with its own list only, and takes the code as it was stored. -/
theorem apply_eq_ok {e e' : StatusEntry} {l l' : StatusList} {status : UInt32} {now : Timestamp}
    (h : e.apply l status now = .ok (e', l')) :
    e.list = l.id ∧ ∃ code, l.setStatus e.index status now = .ok (code, l') ∧
      e' = { e with status := code, updatedAt := l'.updatedAt } := by
  unfold apply at h
  split at h
  · cases h
  · rename_i hid
    split at h
    · cases h
    · rename_i code l₀ hset
      cases h
      exact ⟨Decidable.not_not.mp hid, code, hset, rfl⟩

theorem apply_error {e : StatusEntry} {l : StatusList} (hid : e.list = l.id) {err : ListError}
    {status : UInt32} {now : Timestamp} (h : l.setStatus e.index status now = .error err) :
    e.apply l status now = .error err := by
  unfold apply
  simp only [hid, ne_eq, not_true, if_false, h]

end StatusEntry

end StatusRegistry

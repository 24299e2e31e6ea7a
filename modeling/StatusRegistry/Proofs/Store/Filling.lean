import Mathlib.Algebra.Order.Floor.Div
import StatusRegistry.Proofs.Store.Available
import StatusRegistry.Proofs.Store.Groups

/-!
# Lists that are filled one by one

A group in which each list is filled to its last slot before the next one is made.  Times and
identifiers play no part in it, as there is never a choice: at most one list of the group has room.

* `share`: what each list has handed out when lists are filled one by one;
* `Memory.Issued`, `Issued.start`: a group in which so many slots were handed out, none to begin
  with, and the credentials that wait;
* `Issued.findAvailable_cases`: the list with room is found, or all are full;
* `Issued.putList`, `Issued.allotted`: the two steps, a list is made or a slot is taken.
-/

set_option autoImplicit false

namespace StatusRegistry

/-! ## Filling lists one by one -/

/-- What list number `i` has handed out when `n` slots were handed out in all, list by list, and
each list has `size` of them. -/
def share (size n i : Nat) : Nat := min size (n - i * size)

section Share

variable {size n i : Nat}

theorem share_of_lt (hsize : 0 < size) (h : i < n / size) : share size n i = size := by
  have hle : (i + 1) * size ≤ n := (Nat.le_div_iff_mul_le hsize).mp h
  rw [Nat.add_mul, Nat.one_mul] at hle
  unfold share
  omega

theorem share_div (hsize : 0 < size) : share size n (n / size) = n % size := by
  have hlt := Nat.mod_lt n hsize
  have hn := Nat.div_add_mod' n size
  unfold share
  omega

/-- The next slot is the next one of list number `n / size`. -/
theorem share_succ_div (hsize : 0 < size) :
    share size (n + 1) (n / size) = share size n (n / size) + 1 := by
  have hlt := Nat.mod_lt n hsize
  have hn := Nat.div_add_mod' n size
  unfold share
  omega

theorem share_succ_of_ne (hsize : 0 < size) (h : i ≠ n / size) :
    share size (n + 1) i = share size n i := by
  unfold share
  rcases Nat.lt_or_gt_of_ne h with h | h
  · have hle : (i + 1) * size ≤ n := (Nat.le_div_iff_mul_le hsize).mp h
    rw [Nat.add_mul, Nat.one_mul] at hle
    omega
  · have hlt : n < i * size := (Nat.div_lt_iff_lt_mul hsize).mp h
    omega

/-- Either the lists that are needed are full, or one more than those that are full is needed. -/
theorem ceilDiv_cases (hsize : 0 < size) :
    n % size = 0 ∧ n ⌈/⌉ size = n / size ∨ n ⌈/⌉ size = n / size + 1 := by
  have hlt := Nat.mod_lt n hsize
  have hn := Nat.div_add_mod' n size
  rw [Nat.ceilDiv_eq_add_pred_div]
  by_cases h : n % size = 0
  · refine .inl ⟨h, Nat.div_eq_of_lt_le ?_ ?_⟩
    · omega
    · rw [Nat.add_mul]
      omega
  · refine .inr (Nat.div_eq_of_lt_le ?_ ?_)
    · rw [Nat.add_mul]
      omega
    · rw [Nat.add_mul, Nat.add_mul]
      omega

theorem ceilDiv_succ (hsize : 0 < size) : (n + 1) ⌈/⌉ size = n / size + 1 := by
  rw [Nat.ceilDiv_eq_add_pred_div, show n + 1 + size - 1 = n + size by omega,
    Nat.add_div_right n hsize]

end Share

namespace Memory

/-! ## A group in the course of the assignments -/

/-- A group in which `n` slots were handed out, list by list in the order of `ids`, in a store that
has no entries yet for the credentials that wait. -/
structure Issued (capacity : UInt64) (g : Group) (kept : List CredentialId) (n : Nat)
    (ids : List ListId) (waiting : List CredentialId) (m : Memory) : Prop where
  consistent : m.Consistent
  capacity_pos : 0 < capacity.toNat
  nodup : ids.Nodup
  mem_ids : ∀ id, (m.slots g id).isSome → id ∈ ids
  slots_eq : ∀ i id, ids[i]? = some id → ∃ used, m.slots g id = some (capacity, used) ∧
    used.toNat = share capacity.toNat n i
  waiting_nodup : waiting.Nodup
  waiting_kept : ∀ x ∈ waiting, x ∈ kept
  waiting_none : ∀ x ∈ waiting, m.byCredential[(x, g.purpose)]? = none

namespace Issued

variable {capacity : UInt64} {g : Group} {kept : List CredentialId} {n : Nat} {ids : List ListId}
  {waiting : List CredentialId} {m m' : Memory}

/-- No slot is handed out yet in a group without lists. -/
theorem start (hm : m.Consistent) (hcapacity : 0 < capacity.toNat) (hempty : m.groupIds g = [])
    (hnodup : waiting.Nodup) (hnew : ∀ x ∈ waiting, m.findEntry x g.purpose = none) :
    Issued capacity g waiting 0 [] waiting m := by
  refine ⟨hm, hcapacity, List.nodup_nil, ?_, ?_, hnodup, fun _ hx => hx, ?_⟩
  · intro id hid
    rw [← hempty]
    exact mem_groupIds.mpr (isSome_slots_iff.mp hid)
  · intro i id hi
    cases hi
  · intro x hx
    exact hm.findEntry_eq_none_iff_key.mp (hnew x hx)

theorem mem_ids_iff (h : Issued capacity g kept n ids waiting m) {id : ListId} :
    id ∈ ids ↔ (m.slots g id).isSome := by
  refine ⟨?_, h.mem_ids id⟩
  intro hid
  obtain ⟨i, hi⟩ := List.mem_iff_getElem?.mp hid
  obtain ⟨used, hslots, -⟩ := h.slots_eq i id hi
  rw [hslots]
  rfl

/-- What leaves the group untouched changes nothing of it. -/
theorem untouched (h : Issued capacity g kept n ids waiting m) (hm : Untouched g kept m m') :
    Issued capacity g kept n ids waiting m' := by
  obtain ⟨hleads, hslots, hkeys⟩ := hm
  refine ⟨hleads.consistent h.consistent, h.capacity_pos, h.nodup, ?_, ?_, h.waiting_nodup,
    h.waiting_kept, ?_⟩
  · rw [hslots]
    exact h.mem_ids
  · rw [hslots]
    exact h.slots_eq
  · intro x hx
    rw [hkeys x (h.waiting_kept x hx)]
    exact h.waiting_none x hx

/-- The list that is filled at present has room, and its next slot is the next one of all. -/
theorem current (h : Issued capacity g kept n ids waiting m) {id : ListId}
    (hid : ids[n / capacity.toNat]? = some id) :
    ∃ l, m.StoresList l ∧ l.id = id ∧ l.group = g ∧ l.used.toNat = n % capacity.toNat ∧
      l.hasRoom = true := by
  obtain ⟨used, hslots, hused⟩ := h.slots_eq _ _ hid
  obtain ⟨l, hl, hgroup, hcapacity, rfl⟩ := slots_eq_some_iff.mp hslots
  rw [share_div h.capacity_pos] at hused
  refine ⟨l, h.consistent.storesList hl, h.consistent.list_id hl, hgroup, hused, ?_⟩
  rw [StatusList.hasRoom_iff, UInt64.lt_iff_toNat_lt, hcapacity, hused]
  exact Nat.mod_lt _ h.capacity_pos

/-- No other list of the group has room. -/
theorem eq_current (h : Issued capacity g kept n ids waiting m)
    (hlength : ids.length ≤ n / capacity.toNat + 1) {l : StatusList}
    (hl : m.Available g.issuer g.purpose g.width l) :
    ids[n / capacity.toNat]? = some l.id := by
  have hslots := hl.stored.slots_eq (StatusList.inGroup_iff.mp hl.inGroup)
  obtain ⟨i, hi⟩ := List.mem_iff_getElem?.mp (h.mem_ids l.id (by rw [hslots]; rfl))
  obtain ⟨used, hslots', hused⟩ := h.slots_eq i l.id hi
  rw [hslots, Option.some.injEq, Prod.mk.injEq] at hslots'
  obtain ⟨hcapacity, rfl⟩ := hslots'
  have hroom := UInt64.lt_iff_toNat_lt.mp (StatusList.hasRoom_iff.mp hl.hasRoom)
  have hnotFull : ¬ i < n / capacity.toNat := by
    intro hlt
    rw [share_of_lt h.capacity_pos hlt, ← hcapacity] at hused
    omega
  have hlt := (List.getElem?_eq_some_iff.mp hi).1
  rw [show n / capacity.toNat = i by omega]
  exact hi

/-- A list with room is found iff one was begun, and then it is that one. -/
theorem findAvailable_cases (h : Issued capacity g kept n ids waiting m)
    (hlength : ids.length = n ⌈/⌉ capacity.toNat) :
    (∃ l, m.findAvailable g.issuer g.purpose g.width = some l ∧
      ids.length = n / capacity.toNat + 1 ∧ ids[n / capacity.toNat]? = some l.id) ∨
    m.findAvailable g.issuer g.purpose g.width = none ∧ n % capacity.toNat = 0 ∧
      ids.length = n / capacity.toNat := by
  have hcases := ceilDiv_cases (n := n) h.capacity_pos
  rw [← hlength] at hcases
  cases hfound : m.findAvailable g.issuer g.purpose g.width with
  | some l =>
    have havailable := (h.consistent.findAvailable_eq_some_iff.mp hfound).1
    have hid := h.eq_current (by omega) havailable
    have hlt := (List.getElem?_eq_some_iff.mp hid).1
    exact .inl ⟨l, rfl, by omega, hid⟩
  | none =>
    rcases hcases with hfull | hbegun
    · exact .inr ⟨rfl, hfull⟩
    · -- the list that was begun has room
      obtain ⟨l, hl, -, hgroup, -, hroom⟩ :=
        h.current (List.getElem?_eq_getElem (show n / capacity.toNat < ids.length by omega))
      exact absurd ⟨hl, StatusList.inGroup_iff.mpr hgroup, hroom⟩
        (h.consistent.findAvailable_eq_none_iff.mp hfound l)

/-! ## The two steps -/

/-- A new list of the group comes after the others. -/
theorem putList (h : Issued capacity g kept n ids waiting m)
    (hfull : n % capacity.toNat = 0) (hlength : ids.length = n / capacity.toNat)
    {l : StatusList} (hgroup : l.group = g) (hcapacity : l.capacity = capacity)
    (hused : l.used = 0) (hfresh : m.lists[l.id]? = none) (hm : (m.putList l).Consistent) :
    Issued capacity g kept n (ids ++ [l.id]) waiting (m.putList l) := by
  have hnew : l.id ∉ ids := by
    intro hmem
    have hsome := h.mem_ids_iff.mp hmem
    rw [slots, hfresh] at hsome
    cases hsome
  refine ⟨hm, h.capacity_pos, ?_, ?_, ?_, h.waiting_nodup, h.waiting_kept, h.waiting_none⟩
  · rw [← List.concat_eq_append]
    exact (List.nodup_concat ids l.id).mpr ⟨hnew, h.nodup⟩
  · intro id hid
    rw [slots_putList] at hid
    split at hid
    · rename_i heq
      rw [← heq]
      exact List.mem_append_right ids (List.mem_singleton_self _)
    · exact List.mem_append_left _ (h.mem_ids id hid)
  · intro i id hi
    rw [slots_putList]
    by_cases hlt : i < ids.length
    · rw [List.getElem?_append_left hlt] at hi
      have hne : l.id ≠ id := by
        rintro rfl
        exact hnew (List.mem_of_getElem? hi)
      rw [if_neg hne]
      exact h.slots_eq i id hi
    · rw [List.getElem?_append_right (Nat.le_of_not_lt hlt), List.getElem?_singleton] at hi
      split at hi
      · cases hi
        refine ⟨l.used, ?_, ?_⟩
        · rw [if_pos rfl]
          exact StatusList.slotsIn_eq_some_iff.mpr ⟨hgroup, hcapacity, rfl⟩
        · rw [show i = n / capacity.toNat by omega, share_div h.capacity_pos, hfull, hused]
          rfl
      · cases hi

/-- The next slot of the list that is filled at present goes to the first credential that waits. -/
theorem allotted {x : CredentialId} (h : Issued capacity g kept n ids (x :: waiting) m)
    {l : StatusList} (hl : m.StoresList l) (hgroup : l.group = g)
    (hid : ids[n / capacity.toNat]? = some l.id) (hroom : l.hasRoom = true) {r : EntryRequest}
    (hcredential : r.credential = x) {stamp : Stamp} (hm : (m.allotted l r stamp).Consistent) :
    Issued capacity g kept (n + 1) ids waiting (m.allotted l r stamp) := by
  obtain ⟨hx, hnodup⟩ := List.nodup_cons.mp h.waiting_nodup
  have hslots : ∀ id, (m.allotted l r stamp).slots g id =
      if l.id = id then some (l.capacity, l.used + 1) else m.slots g id := by
    intro id
    have hput : (m.allotted l r stamp).slots g id =
        (m.putList (l.withSlotTaken stamp.now)).slots g id := rfl
    rw [hput, slots_putList, StatusList.slotsIn,
      (l.same_withSlotTaken stamp.now).group_eq, if_pos hgroup]
    rfl
  refine ⟨hm, h.capacity_pos, h.nodup, ?_, ?_, hnodup, ?_, ?_⟩
  · intro id hsome
    rw [hslots] at hsome
    split at hsome
    · rename_i heq
      exact heq ▸ List.mem_of_getElem? hid
    · exact h.mem_ids id hsome
  · intro i id hi
    obtain ⟨used, hold, hused⟩ := h.slots_eq i id hi
    rw [hslots]
    by_cases heq : l.id = id
    · obtain rfl : i = n / capacity.toNat :=
        (List.getElem?_inj (List.getElem?_eq_some_iff.mp hi).1 h.nodup).mp (by rw [hi, hid, heq])
      rw [← heq, hl.slots_eq hgroup, Option.some.injEq, Prod.mk.injEq] at hold
      obtain ⟨hcapacity, rfl⟩ := hold
      refine ⟨l.used + 1, by rw [if_pos heq, hcapacity], ?_⟩
      rw [StatusList.toNat_used_succ (StatusList.hasRoom_iff.mp hroom), hused,
        share_succ_div h.capacity_pos]
    · refine ⟨used, by rw [if_neg heq, hold], ?_⟩
      rw [hused, share_succ_of_ne h.capacity_pos]
      rintro rfl
      rw [hi] at hid
      exact heq (Option.some.inj hid).symm
  · intro y hy
    exact h.waiting_kept y (List.mem_cons_of_mem x hy)
  · intro y hy
    rw [keys_allotted]
    · exact h.waiting_none y (List.mem_cons_of_mem x hy)
    · rintro ⟨heq, -⟩
      exact hx (by rw [← hcredential, heq]; exact hy)

end Issued

/-- A group with a list that takes the next slot. -/
structure Begun (capacity : UInt64) (g : Group) (kept : List CredentialId) (n : Nat)
    (ids : List ListId) (waiting : List CredentialId) (id : ListId) (m : Memory) : Prop where
  issued : Issued capacity g kept n ids waiting m
  length_eq : ids.length = n / capacity.toNat + 1
  current_eq : ids[n / capacity.toNat]? = some id

end Memory

end StatusRegistry

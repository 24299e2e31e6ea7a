import StatusRegistry.Proofs.Store.Consistency

/-!
# The list that is offered

Of the lists of a group that have room, the first one is offered: the one that was made first, and
of those made at one time the one with the least identifier.

* `StatusList.before_trans`, `StatusList.eq_of_not_before`: lists of different identifiers come one
  before the other, whenever they were made;
* `Memory.findAvailable_eq_some_iff`, `Memory.findAvailable_eq_none_iff`: which list is offered,
  whatever the order of the table is.
-/

set_option autoImplicit false

namespace StatusRegistry

namespace StatusList

/-! ## The order in which lists are filled -/

/-- Lists are ordered by the rank of their making, then by their identifier. -/
theorem before_iff {a b : StatusList} :
    a.before b = true ↔ a.createdAt.instant.rank < b.createdAt.instant.rank ∨
      a.createdAt.instant.rank = b.createdAt.instant.rank ∧ a.id.uuid.toNat < b.id.uuid.toNat := by
  have hlt : a.createdAt < b.createdAt ↔
      a.createdAt.instant.rank < b.createdAt.instant.rank := Iff.rfl
  have heq : a.createdAt = b.createdAt ↔
      a.createdAt.instant.rank = b.createdAt.instant.rank :=
    ⟨fun h => by rw [h], fun h => congrArg Timestamp.mk (Instant.rank_inj.mp h)⟩
  simp only [before, Bool.or_eq_true, Bool.and_eq_true, decide_eq_true_eq, hlt, heq]

theorem before_irrefl (a : StatusList) : a.before a = false := by
  rw [← Bool.not_eq_true, before_iff]
  omega

theorem before_trans {a b c : StatusList} (hab : a.before b = true) (hbc : b.before c = true) :
    a.before c = true := by
  rw [before_iff] at *
  omega

/-- Of two lists of which neither is before the other, both have the same identifier. -/
theorem eq_of_not_before {a b : StatusList} (hab : a.before b = false)
    (hba : b.before a = false) : a.id = b.id := by
  rw [← Bool.not_eq_true, before_iff] at hab hba
  have huuid : a.id.uuid = b.id.uuid := Uuid.toNat_inj (by omega)
  exact congrArg ListId.mk huuid

/-- A first list among those that satisfy `p`, or none if there are none. -/
def IsFirst (p : StatusList → Prop) : Option StatusList → Prop
  | none => ∀ l, ¬ p l
  | some b => p b ∧ ∀ l, p l → l.before b = false

theorem IsFirst.congr {p q : StatusList → Prop} {best : Option StatusList} (h : IsFirst p best)
    (hpq : ∀ l, p l ↔ q l) : IsFirst q best := by
  cases best with
  | none => exact fun l hl => h l ((hpq l).mpr hl)
  | some b => exact ⟨(hpq b).mp h.1, fun l hl => h.2 l ((hpq l).mpr hl)⟩

/-- One more list is the first one, or the first one stays. -/
theorem IsFirst.step {p : StatusList → Prop} {best : Option StatusList} (h : IsFirst p best)
    (l : StatusList) : IsFirst (fun x => p x ∨ x = l) (first best l) := by
  cases best with
  | none =>
    refine ⟨.inr rfl, ?_⟩
    rintro x (hx | rfl)
    · exact absurd hx (h x)
    · exact before_irrefl x
  | some b =>
    unfold first
    simp only
    split
    · rename_i hbefore
      refine ⟨.inr rfl, ?_⟩
      rintro x (hx | rfl)
      · rw [← Bool.not_eq_true]
        intro hxl
        have := before_trans hxl hbefore
        rw [h.2 x hx] at this
        cases this
      · exact before_irrefl x
    · rename_i hbefore
      refine ⟨.inl h.1, ?_⟩
      rintro x (hx | rfl)
      · exact h.2 x hx
      · exact Bool.not_eq_true _ ▸ hbefore

/-- A search through records finds a first one of those that it admits. -/
theorem isFirst_foldl (admits : StatusList → Bool) {p : StatusList → Prop}
    {rows : List (ListId × StatusList)} {best : Option StatusList} (h : IsFirst p best) :
    IsFirst (fun x => p x ∨ admits x = true ∧ ∃ id, (id, x) ∈ rows)
      (rows.foldl (fun best row => if admits row.2 then first best row.2 else best) best) := by
  induction rows generalizing p best with
  | nil => exact h.congr fun l => by simp
  | cons row rows ih =>
    rw [List.foldl_cons]
    by_cases hrow : admits row.2 = true
    · rw [if_pos hrow]
      refine (ih (h.step row.2)).congr fun l => ?_
      constructor
      · rintro ((hl | rfl) | ⟨hl, id, hid⟩)
        · exact .inl hl
        · exact .inr ⟨hrow, row.1, List.mem_cons_self⟩
        · exact .inr ⟨hl, id, List.mem_cons_of_mem _ hid⟩
      · rintro (hl | ⟨hl, id, hid⟩)
        · exact .inl (.inl hl)
        · rcases List.mem_cons.mp hid with rfl | hid
          · exact .inl (.inr rfl)
          · exact .inr ⟨hl, id, hid⟩
    · rw [if_neg hrow]
      refine (ih h).congr fun l => or_congr_right (and_congr_right fun hl => ?_)
      constructor
      · rintro ⟨id, hid⟩
        exact ⟨id, List.mem_cons_of_mem _ hid⟩
      · rintro ⟨id, hid⟩
        rcases List.mem_cons.mp hid with rfl | hid
        · exact absurd hl hrow
        · exact ⟨id, hid⟩

end StatusList

namespace Memory

variable {m : Memory} {issuer : IssuerId} {purpose : Purpose} {width : SlotWidth}

/-- A stored list of a group that has room. -/
structure Available (m : Memory) (issuer : IssuerId) (purpose : Purpose) (width : SlotWidth)
    (l : StatusList) : Prop where
  stored : m.StoresList l
  inGroup : l.inGroup issuer purpose width = true
  hasRoom : l.hasRoom = true

theorem Consistent.isFirst_findAvailable (h : m.Consistent) (issuer : IssuerId)
    (purpose : Purpose) (width : SlotWidth) :
    StatusList.IsFirst (m.Available issuer purpose width)
      (m.findAvailable issuer purpose width) := by
  have hnone : StatusList.IsFirst (fun _ => False) none := fun _ h => h
  unfold findAvailable
  rw [Std.HashMap.fold_eq_foldl_toList]
  refine (StatusList.isFirst_foldl (fun l => l.inGroup issuer purpose width && l.hasRoom)
    hnone).congr fun l => ?_
  constructor
  · rintro (hfalse | ⟨hadmits, id, hid⟩)
    · cases hfalse
    · rw [Bool.and_eq_true] at hadmits
      exact ⟨h.storesList (Std.HashMap.mem_toList_iff_getElem?_eq_some.mp hid), hadmits.1,
        hadmits.2⟩
  · rintro ⟨hstored, hgroup, hroom⟩
    exact .inr ⟨by rw [hgroup, hroom]; rfl, l.id,
      Std.HashMap.mem_toList_iff_getElem?_eq_some.mpr hstored⟩

/-- **The list that is offered is the first one that can be.** -/
theorem Consistent.findAvailable_eq_some_iff (h : m.Consistent) {l : StatusList} :
    m.findAvailable issuer purpose width = some l ↔
      m.Available issuer purpose width l ∧
        ∀ l', m.Available issuer purpose width l' → l'.before l = false := by
  have hfirst := h.isFirst_findAvailable issuer purpose width
  constructor
  · intro hfound
    rw [hfound] at hfirst
    exact hfirst
  · rintro ⟨havailable, hleast⟩
    cases hfound : m.findAvailable issuer purpose width with
    | none =>
      rw [hfound] at hfirst
      exact absurd havailable (hfirst l)
    | some b =>
      rw [hfound] at hfirst
      have hid := StatusList.eq_of_not_before (hleast b hfirst.1) (hfirst.2 l havailable)
      rw [hfirst.1.stored.unique havailable.stored hid]

theorem Consistent.findAvailable_eq_none_iff (h : m.Consistent) :
    m.findAvailable issuer purpose width = none ↔
      ∀ l, ¬ m.Available issuer purpose width l := by
  have hfirst := h.isFirst_findAvailable issuer purpose width
  constructor
  · intro hfound
    rw [hfound] at hfirst
    exact hfirst
  · intro hnone
    cases hfound : m.findAvailable issuer purpose width with
    | none => rfl
    | some b =>
      rw [hfound] at hfirst
      exact absurd hfirst.1 (hnone b)

end Memory

end StatusRegistry

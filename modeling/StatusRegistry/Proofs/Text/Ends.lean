import StatusRegistry.Text.Blank

/-!
# Ends that are cut off

What is left of a text without its ends, told by how the text is put together.  A rest and the ends
that were cut off make up the text, and the rest does not begin or end with one character more to
cut; so it is determined.

* `dropWhile_eq_iff`, `dropEnd_eq_iff`: the text without its front, and without its end;
* `trim_eq_iff`: the text without the blanks around.
-/

set_option autoImplicit false

namespace StatusRegistry.Text

variable {p : Char → Bool} {cs rest : List Char}

theorem dropWhile_eq_iff :
    cs.dropWhile p = rest ↔
      ∃ front, cs = front ++ rest ∧ (∀ c ∈ front, p c = true) ∧
        ∀ c, rest.head? = some c → p c = false := by
  constructor
  · rintro rfl
    refine ⟨cs.takeWhile p, List.takeWhile_append_dropWhile.symm,
      List.all_eq_true.mp List.all_takeWhile, fun c hc => ?_⟩
    have hstop := List.head?_dropWhile_not p cs
    rw [hc] at hstop
    simpa using hstop
  · rintro ⟨front, rfl, hfront, hrest⟩
    rw [List.dropWhile_append_of_pos hfront]
    cases rest with
    | nil => rfl
    | cons c rest => rw [List.dropWhile_cons, hrest c rfl]; rfl

theorem dropEnd_eq_iff :
    dropEnd p cs = rest ↔
      ∃ back, cs = rest ++ back ∧ (∀ c ∈ back, p c = true) ∧
        ∀ c, rest.getLast? = some c → p c = false := by
  have hreverse : dropEnd p cs = rest ↔ cs.reverse.dropWhile p = rest.reverse := by
    rw [dropEnd, List.reverse_eq_iff]
  rw [hreverse, dropWhile_eq_iff]
  simp only [List.head?_reverse]
  constructor
  · rintro ⟨front, hcs, hfront, hrest⟩
    refine ⟨front.reverse, ?_, fun c hc => hfront c (List.mem_reverse.mp hc), hrest⟩
    rw [← List.reverse_inj, hcs, List.reverse_append, List.reverse_reverse]
  · rintro ⟨back, rfl, hback, hrest⟩
    exact ⟨back.reverse, List.reverse_append, fun c hc => hback c (List.mem_reverse.mp hc), hrest⟩

theorem isPrefix_dropEnd (p : Char → Bool) (cs : List Char) : dropEnd p cs <+: cs := by
  obtain ⟨back, hcs, -⟩ := dropEnd_eq_iff.mp (Eq.refl (dropEnd p cs))
  exact ⟨back, hcs.symm⟩

/-- Only characters of the end are cut off. -/
theorem mem_dropEnd {c : Char} (hc : c ∈ cs) (hkept : p c = false) : c ∈ dropEnd p cs := by
  obtain ⟨back, hcs, hback, -⟩ := dropEnd_eq_iff.mp (Eq.refl (dropEnd p cs))
  rw [hcs, List.mem_append] at hc
  rcases hc with hc | hc
  · exact hc
  · exact absurd (hkept.symm.trans (hback c hc)) Bool.false_ne_true

/-- Ends are cut off behind a front only, unless nothing is left there. -/
theorem dropEnd_append (front : List Char) :
    dropEnd p (front ++ cs) =
      if dropEnd p cs = [] then dropEnd p front else front ++ dropEnd p cs := by
  simp only [dropEnd, List.reverse_append, List.dropWhile_append, List.reverse_eq_nil_iff,
    List.isEmpty_iff]
  split
  · rfl
  · rw [List.reverse_append, List.reverse_reverse]

/-- A front with an end that is kept is kept as a whole. -/
theorem dropEnd_behind {front : List Char} (h : ∀ c, front.getLast? = some c → p c = false) :
    dropEnd p (front ++ cs) = front ++ dropEnd p cs := by
  rw [dropEnd_append]
  split
  · rename_i hnil
    rw [hnil, List.append_nil]
    exact dropEnd_eq_iff.mpr ⟨[], by simp, nofun, h⟩
  · rfl

/-- What begins and ends with a character that is not blank. -/
def Tight (cs : List Char) : Prop :=
  (∀ c, cs.head? = some c → isBlank c = false) ∧ ∀ c, cs.getLast? = some c → isBlank c = false

theorem tight_of_forall (h : ∀ c ∈ cs, isBlank c = false) : Tight cs :=
  ⟨fun c hc => h c (List.mem_of_mem_head? hc), fun c hc => h c (List.mem_of_mem_getLast? hc)⟩

/-- **The text between the blanks** is the one part that neither begins nor ends with a blank and
has only blanks around. -/
theorem trim_eq_iff :
    trim cs = rest ↔
      ∃ front back, cs = front ++ (rest ++ back) ∧ (∀ c ∈ front, isBlank c = true) ∧
        (∀ c ∈ back, isBlank c = true) ∧ Tight rest := by
  constructor
  · intro h
    obtain ⟨back, hback, hblank, hlast⟩ := dropEnd_eq_iff.mp h
    obtain ⟨front, hcs, hfront, hhead⟩ := dropWhile_eq_iff.mp hback
    refine ⟨front, back, hcs, hfront, hblank, fun c hc => hhead c ?_, hlast⟩
    rw [List.head?_append, hc]
    rfl
  · rintro ⟨front, back, rfl, hfront, hback, hhead, hlast⟩
    cases rest with
    | nil =>
      rw [trim_eq_nil_iff, List.all_eq_true]
      intro c hc
      rcases List.mem_append.mp hc with hc | hc
      · exact hfront c hc
      · exact hback c hc
    | cons c rest =>
      refine dropEnd_eq_iff.mpr ⟨back, dropWhile_eq_iff.mpr ⟨front, rfl, hfront, ?_⟩, hback, hlast⟩
      rintro _ ⟨⟩
      exact hhead c rfl

end StatusRegistry.Text

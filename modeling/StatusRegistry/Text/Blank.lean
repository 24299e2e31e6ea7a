/-!
# Blank text

Which characters count as blank, and how blanks are cut from the ends of a text.  Identifiers,
published bitstrings and numbers from the environment all use the one rule of this module: the
Unicode property White_Space.

* `trim_eq_nil_iff` says that what trims to nothing is exactly a text of blanks.
-/

set_option autoImplicit false

namespace StatusRegistry.Text

/-- The characters with the Unicode property White_Space. -/
def isBlank (c : Char) : Bool :=
  let n := c.toNat
  (0x09 ≤ n && n ≤ 0x0d) || n == 0x20 || n == 0x85 || n == 0xa0 || n == 0x1680 ||
    (0x2000 ≤ n && n ≤ 0x200a) || n == 0x2028 || n == 0x2029 || n == 0x202f || n == 0x205f ||
    n == 0x3000

/-- A text in which every character is blank; the empty text is one. -/
def blank (s : String) : Bool := s.toList.all isBlank

/-- The list without its longest end of characters that satisfy `p`. -/
def dropEnd (p : Char → Bool) (cs : List Char) : List Char := (cs.reverse.dropWhile p).reverse

/-- The list without the blanks at its two ends. -/
def trim (cs : List Char) : List Char := dropEnd isBlank (cs.dropWhile isBlank)

/-! ## Small facts -/

theorem dropWhile_eq_nil {p : Char → Bool} {cs : List Char} (h : cs.all p = true) :
    cs.dropWhile p = [] := by
  induction cs with
  | nil => rfl
  | cons c cs ih =>
    simp only [List.all_cons, Bool.and_eq_true] at h
    simp [h.1, ih h.2]

theorem all_of_dropWhile_eq_nil {p : Char → Bool} {cs : List Char} (h : cs.dropWhile p = []) :
    cs.all p = true := by
  induction cs with
  | nil => rfl
  | cons c cs ih =>
    rw [List.dropWhile_cons] at h
    split at h
    · simp_all
    · simp at h

/-- What trims to nothing is exactly a text of blanks. -/
theorem trim_eq_nil_iff (cs : List Char) : trim cs = [] ↔ cs.all isBlank = true := by
  constructor
  · intro h
    have h' : (cs.dropWhile isBlank).reverse.dropWhile isBlank = [] := by
      simpa [trim, dropEnd] using h
    have hall := all_of_dropWhile_eq_nil h'
    rw [List.all_reverse] at hall
    cases hd : cs.dropWhile isBlank with
    | nil => exact all_of_dropWhile_eq_nil hd
    | cons c r =>
      have hne : isBlank c = false := by
        have := List.head?_dropWhile_not isBlank cs
        simpa [hd] using this
      simp [hd, hne] at hall
  · intro h
    simp [trim, dropEnd, dropWhile_eq_nil h]

end StatusRegistry.Text

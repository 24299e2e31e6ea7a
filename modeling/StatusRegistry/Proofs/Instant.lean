import Mathlib.Data.List.TakeWhile
import StatusRegistry.Instant.Reader
import StatusRegistry.Proofs.Calendar
import StatusRegistry.Proofs.Text.Numeral

/-!
# Instants read back

The text of an instant is read back as the instant: the years past four digits, the leap seconds
and the fractions included.

* `readNumber_padZeros`: a number that fills its width is read up to its end;
* `readYear_yearDigits`, `readTime_timeDigits`: the two halves;
* `ofText?_text`: the round trip.
-/

set_option autoImplicit false

namespace StatusRegistry.Instant

open Text

/-! ## Digits -/

theorem isBlank_of_isDigit {c : Char} (h : isDigit c = true) : isBlank c = false := by
  simp only [isDigit, Bool.and_eq_true, decide_eq_true_eq, Char.le_def, UInt32.le_iff_toNat_le] at h
  obtain ⟨hlow, hhigh⟩ := h
  change 48 ≤ c.toNat at hlow
  change c.toNat ≤ 57 at hhigh
  have hblank : ¬ isBlank c = true := by
    simp only [isBlank, Bool.or_eq_true, Bool.and_eq_true, decide_eq_true_eq, beq_iff_eq]
    omega
  rwa [Bool.not_eq_true] at hblank

theorem dropWhile_isBlank_digits {digits : List Char} (hne : digits ≠ [])
    (hdigits : ∀ c ∈ digits, isDigit c = true) (rest : List Char) :
    (digits ++ rest).dropWhile isBlank = digits ++ rest := by
  cases digits with
  | nil => exact absurd rfl hne
  | cons c cs =>
    have hc := isBlank_of_isDigit (hdigits c (List.mem_cons_self ..))
    simp [hc]

theorem isDigit_of_mem_padded {width n : Nat} {c : Char} (h : c ∈ padZeros width (decimal n)) :
    isDigit c = true :=
  isDigit_of_mem_padZeros (fun _ hc => isDigit_of_mem_decimal hc) c h

theorem padded_ne_nil (width n : Nat) : padZeros width (decimal n) ≠ [] := by
  simp [padZeros, decimal_ne_nil]

theorem takeWhile_padded (width n : Nat) :
    (padZeros width (decimal n)).takeWhile isDigit = padZeros width (decimal n) := by
  rw [List.takeWhile_eq_self_iff]
  exact fun c hc => isDigit_of_mem_padded hc

/-- A number that fills its width is read, whatever follows. -/
theorem readNumber_padZeros {width n : Nat} (hn : n < 10 ^ (width + 1)) (rest : List Char) :
    readNumber (width + 1) (padZeros (width + 1) (decimal n) ++ rest) = some (n, rest) := by
  have hlength := length_padZeros hn
  unfold readNumber
  simp only [dropWhile_isBlank_digits (padded_ne_nil _ n) (fun c hc => isDigit_of_mem_padded hc),
    List.take_left' hlength, takeWhile_padded, value?_padZeros, Option.map_some, List.drop_left]

theorem readNumber_twoDigits {n : Nat} (hn : n < 100) (rest : List Char) :
    readNumber 2 (twoDigits n ++ rest) = some (n, rest) :=
  readNumber_padZeros hn rest

/-! ## Dates -/

/-- The digits behind a sign are read up to a character that is none. -/
theorem value?_signed (n : Nat) (rest : List Char) :
    value? 10 ((padZeros 4 (decimal n) ++ '-' :: rest).takeWhile isDigit) = some n ∧
      (padZeros 4 (decimal n) ++ '-' :: rest).dropWhile isDigit = '-' :: rest := by
  have hstop : isDigit '-' = false := by decide
  have hdigits : ∀ c ∈ padZeros 4 (decimal n), isDigit c = true :=
    fun c hc => isDigit_of_mem_padded hc
  rw [List.takeWhile_append_of_pos hdigits, List.dropWhile_append_of_pos hdigits]
  simp [hstop]

theorem readYear_yearDigits (year : Int) (rest : List Char) :
    readYear (yearDigits year ++ '-' :: rest) = some (year, '-' :: rest) := by
  unfold yearDigits
  split
  · have hread : readNumber 4 (padZeros 4 (decimal year.toNat) ++ '-' :: rest) =
        some (year.toNat, '-' :: rest) := readNumber_padZeros (by omega) _
    have hblank := dropWhile_isBlank_digits (padded_ne_nil 4 year.toNat)
      (fun c hc => isDigit_of_mem_padded hc) ('-' :: rest)
    -- the first character is a digit, so it is no sign
    have hfirst : ∀ c cs, padZeros 4 (decimal year.toNat) ++ '-' :: rest = c :: cs →
        isDigit c = true := by
      intro c cs h
      obtain ⟨d, ds, hds⟩ := List.exists_cons_of_ne_nil (padded_ne_nil 4 year.toNat)
      have hd : d ∈ padZeros 4 (decimal year.toNat) := by simp [hds]
      rw [hds, List.cons_append] at h
      cases h
      exact isDigit_of_mem_padded hd
    unfold readYear
    dsimp only
    rw [hblank]
    split
    · rename_i h
      exact absurd (hfirst _ _ h) (by decide)
    · rename_i h
      exact absurd (hfirst _ _ h) (by decide)
    · rw [hread]
      simp only [Option.map_some, Option.some.injEq, Prod.mk.injEq, and_true]
      omega
  · obtain ⟨hvalue, hrest⟩ := value?_signed year.natAbs rest
    generalize hsize : year.natAbs = size at hvalue hrest ⊢
    unfold readYear
    split
    · simp [isBlank, hvalue, hrest]
      omega
    · simp [isBlank, hvalue, hrest]
      omega

theorem expect_self {c : Char} (hc : isBlank c = false) (rest : List Char) :
    expect c (c :: rest) = some rest := by
  simp [expect, hc]

theorem dayCount_bounds (t : Instant) :
    -96465292 ≤ t.seconds / 86400 ∧ t.seconds / 86400 ≤ 95026236 := by
  have hlow := t.least_le
  have hhigh := t.le_greatest
  unfold leastSecond at hlow
  unfold greatestSecond at hhigh
  omega

theorem readDate_dateDigits (t : Instant) (rest : List Char) :
    readDate (t.dateDigits ++ rest) = some (t.date, rest) := by
  have hvalid : t.date.valid = true := Date.valid_ofDays _
  obtain ⟨hlow, hhigh⟩ := Date.year_ofDays_bounds t.dayCount_bounds.1 t.dayCount_bounds.2
  have hdash : isBlank '-' = false := by decide
  obtain ⟨hmonth, hday⟩ : t.date.month < 100 ∧ t.date.day < 100 := by
    have hlength : Date.monthLength t.date.year t.date.month ≤ 31 := by
      unfold Date.monthLength
      split
      · split <;> decide
      · split <;> decide
    simp only [Date.valid, Bool.and_eq_true, decide_eq_true_eq] at hvalid
    omega
  unfold readDate dateDigits
  simp only [List.append_assoc, List.cons_append, readYear_yearDigits, expect_self hdash,
    readNumber_twoDigits hmonth, readNumber_twoDigits hday, Option.bind_eq_bind, Option.bind_some]
  exact if_pos ⟨hvalid, hlow, hhigh⟩

/-! ## Times -/

/-- A fraction of at most nine digits is read up to its end. -/
theorem readFraction_point {width n : Nat} (hwidth : width < 9) (hn : n < 10 ^ (width + 1))
    (rest : List Char) :
    readFraction ('.' :: padZeros (width + 1) (decimal n) ++ 'Z' :: rest) =
      some (n * 10 ^ (8 - width), 'Z' :: rest) := by
  have hstop : isDigit 'Z' = false := by decide
  have hlength := length_padZeros hn
  have hdigits : ∀ c ∈ padZeros (width + 1) (decimal n), isDigit c = true :=
    fun c hc => isDigit_of_mem_padded hc
  have htake : (padZeros (width + 1) (decimal n)).take 9 = padZeros (width + 1) (decimal n) :=
    List.take_of_length_le (by omega)
  have hpower : 9 - (width + 1) = 8 - width := by omega
  simp only [readFraction, List.cons_append, List.takeWhile_append_of_pos hdigits,
    List.dropWhile_append_of_pos hdigits, List.takeWhile_cons, List.dropWhile_cons, hstop,
    Bool.false_eq_true, if_false, List.append_nil, htake, hlength, value?_padZeros,
    Option.map_some, hpower, Nat.pow_eq]

theorem readFraction_fractionDigits (t : Instant) (rest : List Char) :
    readFraction (t.fractionDigits ++ 'Z' :: rest) = some (t.nanos % 1000000000, 'Z' :: rest) := by
  unfold fractionDigits
  simp only
  split
  · rename_i hzero
    rw [hzero]
    rfl
  · split
    · rw [readFraction_point (by decide) (by omega)]
      congr 2
      omega
    · split
      · rw [readFraction_point (by decide) (by omega)]
        congr 2
        omega
      · rw [readFraction_point (by decide) (by omega)]
        congr 2
        omega

/-- A leap second is read as second 60, which stands for a fraction past second 59. -/
theorem readTime_timeDigits (t : Instant) (rest : List Char) :
    readTime (t.timeDigits ++ (t.fractionDigits ++ 'Z' :: rest)) =
      some (⟨t.secondOfDay, t.nanos⟩, 'Z' :: rest) := by
  have hcolon : isBlank ':' = false := by decide
  have hday : t.secondOfDay < 86400 := by
    unfold secondOfDay
    omega
  have hleap := t.leap
  have hminute : t.secondOfDay % 60 = (t.seconds % 60).toNat := by
    unfold secondOfDay
    omega
  unfold readTime timeDigits
  generalize t.secondOfDay = s at hday hminute ⊢
  have hsecond : s % 60 + t.nanos / 1000000000 < 100 := by omega
  simp only [List.append_assoc, List.cons_append, expect_self hcolon,
    readNumber_twoDigits (show s / 3600 < 100 by omega),
    readNumber_twoDigits (show s / 60 % 60 < 100 by omega), readNumber_twoDigits hsecond,
    readFraction_fractionDigits, Option.bind_eq_bind, Option.bind_some]
  rw [if_pos ⟨by omega, by omega, by omega⟩]
  split
  · simp only [Option.some.injEq, Prod.mk.injEq, TimeOfDay.mk.injEq, and_true]
    omega
  · simp only [Option.some.injEq, Prod.mk.injEq, TimeOfDay.mk.injEq, and_true]
    omega

/-! ## Instants -/

theorem of?_eq {t : Instant} {seconds : Int} {nanos : Nat} (hseconds : seconds = t.seconds)
    (hnanos : nanos = t.nanos) : of? seconds nanos = some t := by
  subst hseconds hnanos
  exact dif_pos ⟨⟨t.least_le, t.le_greatest⟩, t.leap⟩

/-- **The text of an instant is read back as the instant.** -/
theorem ofText?_text (t : Instant) : ofText? t.text = some t := by
  have htext : t.text.toList =
      t.dateDigits ++ ('T' :: (t.timeDigits ++ (t.fractionDigits ++ 'Z' :: []))) := by
    simp [text]
  have hoffset : readOffset ['Z'] = some (0, []) := by decide
  have hcount : t.date.days = t.seconds / 86400 := Date.days_ofDays _
  unfold ofText?
  simp only [htext, readDate_dateDigits, readTime_timeDigits, hoffset, Option.bind_eq_bind,
    Option.bind_some]
  rw [if_pos (by decide)]
  apply of?_eq _ rfl
  rw [hcount]
  unfold secondOfDay
  omega

end StatusRegistry.Instant

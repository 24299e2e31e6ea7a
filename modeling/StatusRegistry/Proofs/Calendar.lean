import StatusRegistry.Calendar

/-!
# The calendar

Counting a date and finding it again.  The day of an era is taken apart into its century, its span
of four years, its year and its day of that year, which is what the divisions of `Date.ofDays`
come to.

* `Date.days_ofDays`: the date of a count has this count;
* `Date.valid_ofDays`: it is a date of the calendar;
* `Date.le_year_ofDays_iff`: its year, told by new year's days.
-/

set_option autoImplicit false

namespace StatusRegistry.Date

/-! ## Days of an era -/

/-- A day of an era by its century, its span of four years, its year and its day of the year, all
counted from 0.  A year ends with day 365 only if it is the last of its span, and the last span of
a century has such a year only in the last century. -/
structure EraDay (dayOfEra century span year day : Int) : Prop where
  century_le : 0 ≤ century ∧ century ≤ 3
  span_le : 0 ≤ span ∧ span ≤ 24
  year_le : 0 ≤ year ∧ year ≤ 3
  day_le : 0 ≤ day ∧ (day ≤ 364 ∨ day = 365 ∧ year = 3 ∧ (span = 24 → century = 3))
  sum_eq : dayOfEra = 36524 * century + 1461 * span + 365 * year + day

theorem exists_eraDay {dayOfEra : Int} (hlow : 0 ≤ dayOfEra) (hhigh : dayOfEra < 146097) :
    ∃ century span year day, EraDay dayOfEra century span year day := by
  by_cases hlast : dayOfEra = 146096
  · exact ⟨3, 24, 3, 365, by omega, by omega, by omega, by omega, by omega⟩
  · by_cases hleap : dayOfEra % 36524 % 1461 = 1460
    · exact ⟨dayOfEra / 36524, dayOfEra % 36524 / 1461, 3, 365, by omega, by omega, by omega,
        by omega, by omega⟩
    · exact ⟨dayOfEra / 36524, dayOfEra % 36524 / 1461, dayOfEra % 36524 % 1461 / 365,
        dayOfEra % 36524 % 1461 % 365, by omega, by omega, by omega, by omega, by omega⟩

/-- The year of the era is found by taking away the leap days that are over. -/
theorem EraDay.yearOfEra_eq {dayOfEra century span year day : Int}
    (h : EraDay dayOfEra century span year day) :
    (dayOfEra - dayOfEra / 1460 + dayOfEra / 36524 - dayOfEra / 146096) / 365 =
      100 * century + 4 * span + year := by
  obtain ⟨hcentury, hspan, hyear, hday, hsum⟩ := h
  by_cases hlast : dayOfEra = 146096
  · subst hlast
    omega
  · have hdiv : dayOfEra / 36524 = century := by omega
    have hera : dayOfEra / 146096 = 0 := by omega
    -- the quotient by 1460 runs ahead by one near the end of a span
    have hquad : dayOfEra / 1460 = 25 * century + span ∧
          24 * century + span + 365 * year + day < 1460 ∨
        dayOfEra / 1460 = 25 * century + span + 1 ∧
          1460 ≤ 24 * century + span + 365 * year + day := by omega
    rw [hdiv, hera]
    rcases hquad with ⟨hquad, hlow⟩ | ⟨hquad, hhigh⟩
    · rw [hquad]
      omega
    · rw [hquad]
      omega

/-- The leap days in front of a year of an era. -/
theorem EraDay.leapDays_eq {dayOfEra century span year day : Int}
    (h : EraDay dayOfEra century span year day) :
    (100 * century + 4 * span + year) / 4 = 25 * century + span ∧
      (100 * century + 4 * span + year) / 100 = century := by
  obtain ⟨hcentury, hspan, hyear, -, -⟩ := h
  omega

/-! ## Months -/

/-- A day of a year by its month and its day, both counted from 0, in a year that starts on
1 March: the first day of each month is `(153 * month + 2) / 5`. -/
structure YearDay (dayOfYear month day : Int) : Prop where
  month_le : 0 ≤ month ∧ month ≤ 11
  day_le : 0 ≤ day ∧ day ≤ 30
  short : month = 1 ∨ month = 3 ∨ month = 6 ∨ month = 8 → day ≤ 29
  february : month = 11 → day ≤ 28 ∧ (day = 28 → dayOfYear = 365)
  sum_eq : dayOfYear = (153 * month + 2) / 5 + day

theorem yearDay_of_le {dayOfYear : Int} (hlow : 0 ≤ dayOfYear) (hhigh : dayOfYear ≤ 365) :
    YearDay dayOfYear ((5 * dayOfYear + 2) / 153)
      (dayOfYear - (153 * ((5 * dayOfYear + 2) / 153) + 2) / 5) := by
  have hmonth : 0 ≤ (5 * dayOfYear + 2) / 153 ∧ (5 * dayOfYear + 2) / 153 ≤ 11 := by omega
  generalize hm : (5 * dayOfYear + 2) / 153 = month at hmonth
  refine ⟨hmonth, by omega, by omega, by omega, by omega⟩

/-! ## Dates of counts -/

/-- What the date of a count is made of. -/
theorem ofDays_parts (count : Int) :
    ∃ era century span year day month dayOfMonth,
      EraDay ((count + 719468) % 146097) century span year day ∧ YearDay day month dayOfMonth ∧
      count + 719468 = era * 146097 + (36524 * century + 1461 * span + 365 * year + day) ∧
      ofDays count =
        ⟨100 * century + 4 * span + year + era * 400 + (if month < 10 then 0 else 1),
          (if month < 10 then month + 3 else month - 9).toNat, (dayOfMonth + 1).toNat⟩ := by
  obtain ⟨century, span, year, day, h⟩ := exists_eraDay
    (Int.emod_nonneg (count + 719468) (by decide : (146097 : Int) ≠ 0))
    (Int.emod_lt_of_pos (count + 719468) (by decide : (0 : Int) < 146097))
  have hday : (count + 719468) % 146097 -
      (365 * (100 * century + 4 * span + year) + (100 * century + 4 * span + year) / 4 -
        (100 * century + 4 * span + year) / 100) = day := by
    rw [h.leapDays_eq.1, h.leapDays_eq.2, h.sum_eq]
    omega
  have hle : day ≤ 365 := by
    have := h.day_le
    omega
  have hy := yearDay_of_le h.day_le.1 hle
  refine ⟨(count + 719468) / 146097, century, span, year, day, _, _, h, hy, ?_, ?_⟩
  · rw [← h.sum_eq]
    omega
  · have hmonth := hy.month_le
    unfold ofDays
    simp only [h.yearOfEra_eq, hday]
    generalize (5 * day + 2) / 153 = month at hmonth
    congr 1
    split <;> split <;> omega

/-- **The date of a count has this count.** -/
theorem days_ofDays (count : Int) : (ofDays count).days = count := by
  obtain ⟨era, century, span, year, day, month, dayOfMonth, h, hy, hcount, heq⟩ :=
    ofDays_parts count
  obtain ⟨hyears, hcenturies⟩ := h.leapDays_eq
  obtain ⟨hcentury, hspan, hyear, -, -⟩ := h
  obtain ⟨hmonth, hday, -, -, hsum⟩ := hy
  -- January and February belong to the year that started in March before them
  have hmarch : (if (if month < 10 then month + 3 else month - 9).toNat ≤ 2 then
        100 * century + 4 * span + year + era * 400 + (if month < 10 then 0 else 1) - 1
      else 100 * century + 4 * span + year + era * 400 + (if month < 10 then 0 else 1)) =
        100 * century + 4 * span + year + era * 400 := by
    split <;> split <;> omega
  have hmonthOfYear :
      ((((if month < 10 then month + 3 else month - 9).toNat + 9) % 12 : Nat) : Int) = month := by
    split <;> omega
  have hera : (100 * century + 4 * span + year + era * 400) / 400 = era := by omega
  have hyearOfEra : (100 * century + 4 * span + year + era * 400) % 400 =
      100 * century + 4 * span + year := by omega
  rw [heq]
  unfold days
  simp only [hmarch, hmonthOfYear, hera, hyearOfEra, hyears, hcenturies]
  omega

theorem isLeap_iff {year : Int} :
    isLeap year = true ↔ year % 4 = 0 ∧ (year % 100 ≠ 0 ∨ year % 400 = 0) := by
  simp [isLeap]

/-- A month has the days that a year which starts in March gives it. -/
theorem YearDay.le_monthLength {dayOfYear month day year : Int} (h : YearDay dayOfYear month day)
    (hleap : dayOfYear = 365 → isLeap (year + 1) = true) :
    (day + 1).toNat ≤ monthLength (year + (if month < 10 then 0 else 1))
      (if month < 10 then month + 3 else month - 9).toNat := by
  obtain ⟨hmonth, hday, hshort, hfebruary, -⟩ := h
  unfold monthLength
  by_cases hlt : month < 10
  · simp only [if_pos hlt]
    rw [if_neg (by omega)]
    split
    · have := hshort (by omega)
      omega
    · omega
  · simp only [if_neg hlt]
    split
    · have hlast := hfebruary (by omega)
      split
      · omega
      · rename_i hnot
        have hfit : day ≠ 28 := fun h28 => hnot (hleap (hlast.2 h28))
        omega
    · rw [if_neg (by omega)]
      omega

/-- **The date of a count is a date of the calendar.** -/
theorem valid_ofDays (count : Int) : (ofDays count).valid = true := by
  obtain ⟨era, century, span, year, day, month, dayOfMonth, h, hy, -, heq⟩ := ofDays_parts count
  obtain ⟨hcentury, hspan, hyear, hleap, -⟩ := h
  have hleapYear : day = 365 →
      isLeap (100 * century + 4 * span + year + era * 400 + 1) = true := by
    intro hlast
    rw [isLeap_iff]
    omega
  have hlength := hy.le_monthLength hleapYear
  obtain ⟨hmonth, hday, -, -, -⟩ := hy
  rw [heq]
  simp only [valid, Bool.and_eq_true, decide_eq_true_eq]
  refine ⟨⟨⟨?_, ?_⟩, ?_⟩, hlength⟩
  · split <;> omega
  · split <;> omega
  · omega

/-! ## Years -/

/-- The count of a new year's day, by the leap days that are over. -/
theorem days_newYear (year : Int) :
    (⟨year, 1, 1⟩ : Date).days =
      365 * (year - 1) + (year - 1) / 4 - (year - 1) / 100 + (year - 1) / 400 - 719162 := by
  have hmonth : ((((1 : Nat) + 9) % 12 : Nat) : Int) = 10 := by decide
  unfold days
  simp only [hmonth, if_pos (show (1 : Nat) ≤ 2 by decide)]
  omega

/-- **A year has come on a day iff its new year's day has.** -/
theorem le_year_ofDays_iff {count year : Int} :
    year ≤ (ofDays count).year ↔ (⟨year, 1, 1⟩ : Date).days ≤ count := by
  obtain ⟨era, century, span, yearOfSpan, day, month, dayOfMonth, h, hy, hcount, heq⟩ :=
    ofDays_parts count
  obtain ⟨hcentury, hspan, hyear, hday, -⟩ := h
  obtain ⟨hmonth, hdays, -, -, hsum⟩ := hy
  have hmarch : month < 10 ↔ day < 306 := by omega
  generalize hstart : 100 * century + 4 * span + yearOfSpan + era * 400 = start at heq
  have hfront : count + 719468 =
      365 * start + start / 4 - start / 100 + start / 400 + day := by omega
  rw [heq, days_newYear]
  simp only [hmarch]
  clear heq hmarch hsum
  split <;> omega

theorem year_ofDays_bounds {count : Int} (hlow : -96465292 ≤ count) (hhigh : count ≤ 95026236) :
    -262143 ≤ (ofDays count).year ∧ (ofDays count).year ≤ 262142 := by
  have hfirst : (⟨-262143, 1, 1⟩ : Date).days = -96465292 := by decide
  have hlast : (⟨262143, 1, 1⟩ : Date).days = 95026237 := by decide
  have hover : ¬ 262143 ≤ (ofDays count).year := by
    rw [le_year_ofDays_iff, hlast]
    omega
  exact ⟨le_year_ofDays_iff.mpr (by omega), by omega⟩

end StatusRegistry.Date

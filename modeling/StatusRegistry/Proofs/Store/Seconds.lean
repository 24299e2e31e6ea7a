import StatusRegistry.Proofs.Document.Records
import StatusRegistry.Proofs.Store.Columns
import StatusRegistry.Proofs.Store.Consistency

/-!
# Whole seconds

Which timestamps are whole seconds, and what becomes of the others.  Those that the program makes
are; one that is read from a document is exactly what the document says, and any instant can be said
there.

* `Instant.nanos_of_no_point`: a text without a point is read as a whole second or a leap second;
* `Timestamp.Obtained`: how a timestamp can be obtained;
* `ListRow.exists_toList_iff`, `EntryRow.exists_toEntry_iff`: which records come back from their
  rows;
* `Timestamp.kept_iff_whole`: all of it together.
-/

set_option autoImplicit false

namespace StatusRegistry

namespace Instant

open Text

/-! ## What a reader leaves -/

theorem suffix_of_readNumber {most n : Nat} {cs rest : List Char}
    (h : readNumber most cs = some (n, rest)) : rest <:+ cs := by
  obtain ⟨_, -, heq⟩ := Option.map_eq_some_iff.mp h
  cases heq
  exact (List.drop_suffix _ _).trans (List.dropWhile_suffix _)

theorem suffix_of_readYear {year : Int} {cs rest : List Char}
    (h : readYear cs = some (year, rest)) : rest <:+ cs := by
  have hblanks : cs.dropWhile isBlank <:+ cs := List.dropWhile_suffix _
  unfold readYear at h
  dsimp only at h
  split at h
  · rename_i back heq
    obtain ⟨_, -, hpair⟩ := Option.map_eq_some_iff.mp h
    cases hpair
    rw [heq] at hblanks
    exact ((List.dropWhile_suffix _).trans (List.suffix_cons _ _)).trans hblanks
  · rename_i back heq
    obtain ⟨_, -, hpair⟩ := Option.map_eq_some_iff.mp h
    cases hpair
    rw [heq] at hblanks
    exact ((List.dropWhile_suffix _).trans (List.suffix_cons _ _)).trans hblanks
  · obtain ⟨⟨_, _⟩, hread, hpair⟩ := Option.map_eq_some_iff.mp h
    cases hpair
    exact (suffix_of_readNumber hread).trans hblanks

theorem suffix_of_expect {c : Char} {cs rest : List Char} (h : expect c cs = some rest) :
    rest <:+ cs := by
  have hblanks : cs.dropWhile isBlank <:+ cs := List.dropWhile_suffix _
  unfold expect at h
  split at h
  · rename_i d back heq
    split at h
    · cases h
      rw [heq] at hblanks
      exact (List.suffix_cons _ _).trans hblanks
    · cases h
  · cases h

theorem suffix_of_readDate {d : Date} {cs rest : List Char} (h : readDate cs = some (d, rest)) :
    rest <:+ cs := by
  unfold readDate at h
  simp only [Option.bind_eq_bind, Option.bind_eq_some_iff] at h
  obtain ⟨⟨_, year⟩, hyear, dash, hdash, ⟨_, month⟩, hmonth, dash', hdash', ⟨_, day⟩, hday,
    hend⟩ := h
  split at hend
  · cases hend
    exact (suffix_of_readNumber hday).trans ((suffix_of_expect hdash').trans
      ((suffix_of_readNumber hmonth).trans ((suffix_of_expect hdash).trans
        (suffix_of_readYear hyear))))
  · cases hend

/-! ## Fractions -/

theorem readFraction_of_no_point {cs rest : List Char} {nanos : Nat} (hpoint : '.' ∉ cs)
    (h : readFraction cs = some (nanos, rest)) : nanos = 0 := by
  unfold readFraction at h
  split at h
  · exact absurd (List.mem_cons_self ..) hpoint
  · cases h
    rfl

/-- Without a point a time of day has no fraction, or it is the start of a leap second. -/
theorem readTime_of_no_point {cs rest : List Char} {time : TimeOfDay} (hpoint : '.' ∉ cs)
    (h : readTime cs = some (time, rest)) : time.nanos = 0 ∨ time.nanos = 1000000000 := by
  unfold readTime at h
  simp only [Option.bind_eq_bind, Option.bind_eq_some_iff] at h
  obtain ⟨⟨_, hour⟩, hhour, colon, hcolon, ⟨_, minute⟩, hminute, colon', hcolon', ⟨_, second⟩,
    hsecond, ⟨nanos, _⟩, hnanos, hend⟩ := h
  have hsuffix : second <:+ cs := (suffix_of_readNumber hsecond).trans
    ((suffix_of_expect hcolon').trans ((suffix_of_readNumber hminute).trans
      ((suffix_of_expect hcolon).trans (suffix_of_readNumber hhour))))
  have hzero : nanos = 0 :=
    readFraction_of_no_point (fun hmem => hpoint (hsuffix.subset hmem)) hnanos
  split at hend
  · split at hend
    · obtain ⟨rfl, -⟩ := Prod.mk.inj (Option.some.inj hend)
      right
      dsimp only
      omega
    · obtain ⟨rfl, -⟩ := Prod.mk.inj (Option.some.inj hend)
      exact .inl hzero
  · cases hend

theorem of?_nanos {seconds : Int} {nanos : Nat} {t : Instant} (h : of? seconds nanos = some t) :
    t.nanos = nanos := by
  unfold of? at h
  split at h
  · cases h
    rfl
  · cases h

/-- The fraction of an instant that is read is that of its time of day. -/
theorem exists_readTime_of_ofText? {s : String} {t : Instant} (h : ofText? s = some t) :
    ∃ cs time rest, cs <:+ s.toList ∧ readTime cs = some (time, rest) ∧ t.nanos = time.nanos := by
  unfold ofText? at h
  obtain ⟨⟨date, behind⟩, hdate, h⟩ := Option.bind_eq_some_iff.mp h
  have hbehind := suffix_of_readDate hdate
  dsimp only at h
  split at h
  -- the three separators alike
  all_goals simp only [Option.bind_eq_bind, Option.bind_some, Option.bind_none,
    Option.bind_eq_some_iff, reduceCtorEq] at h
  all_goals
    obtain ⟨⟨time, _⟩, htime, _, -, hend⟩ := h
    refine ⟨_, time, _, (List.suffix_cons _ _).trans hbehind, htime, ?_⟩
    split at hend
    · exact of?_nanos hend
    · cases hend

/-- **A text without a point is read as a whole second, or as the start of a leap second.** -/
theorem nanos_of_no_point {s : String} {t : Instant} (hpoint : '.' ∉ s.toList)
    (h : ofText? s = some t) : t.nanos = 0 ∨ t.nanos = 1000000000 := by
  obtain ⟨cs, time, rest, hsuffix, htime, heq⟩ := exists_readTime_of_ofText? h
  rw [heq]
  exact readTime_of_no_point (fun hmem => hpoint (hsuffix.subset hmem)) htime

theorem fractionDigits_eq_nil_iff {t : Instant} :
    t.fractionDigits = [] ↔ t.nanos % 1000000000 = 0 := by
  constructor
  · intro h
    unfold fractionDigits at h
    dsimp only at h
    split at h
    · assumption
    · split at h
      · cases h
      · split at h <;> cases h
  · intro h
    unfold fractionDigits
    exact if_pos h

end Instant

/-! ## Timestamps -/

namespace Timestamp

theorem whole_iff_ofInstant {t : Timestamp} : t.Whole ↔ ofInstant t.instant = t := by
  constructor
  · exact ofInstant_instant
  · intro h
    rw [← h]
    exact ofInstant_whole _

/-- The text of a timestamp is the one that is written in a document iff it has no fraction beside
a leap second. -/
theorem toJson_eq_text_iff {t : Timestamp} :
    t.toJson = .string t.text ↔ t.instant.nanos % 1000000000 = 0 := by
  rw [← Instant.fractionDigits_eq_nil_iff]
  show Json.string t.instant.text = .string t.instant.secondText ↔ _
  simp only [Json.string.injEq, Instant.text, Instant.secondText, String.ofList_inj,
    List.append_cancel_right_eq, List.append_right_eq_self]

/-- The timestamps that can be obtained: that of an instant, one that is some time after another,
and one that is read from a document. -/
inductive Obtained : Timestamp → Prop
  | instant (t : Instant) : Obtained (.ofInstant t)
  | later {t u : Timestamp} {millis : Nat} (obtained : Obtained t)
      (later : t.addMillis? millis = some u) : Obtained u
  | document {j : Json} {t : Timestamp} (read : ofJson j = .ok t) : Obtained t

theorem ofJson_eq_ok_iff {j : Json} {t : Timestamp} :
    ofJson j = .ok t ↔ ∃ s, j = .string s ∧ Instant.ofText? s = some t.instant := by
  constructor
  · intro h
    cases j with
    | string s =>
      refine ⟨s, rfl, ?_⟩
      unfold ofJson Instant.ofJson at h
      dsimp only at h
      split at h
      · rename_i u hread
        cases h
        exact hread
      · cases h
    | _ => cases h
  · rintro ⟨s, rfl, hread⟩
    unfold ofJson Instant.ofJson
    dsimp only
    rw [hread]
    rfl

/-- A timestamp that is no whole second was read from a text with a fraction or a leap second. -/
theorem Obtained.whole_or_read {t : Timestamp} (h : t.Obtained) :
    t.Whole ∨ ∃ s, ofJson (.string s) = .ok t ∧
      ('.' ∈ s.toList ∨ t.instant.nanos = 1000000000) := by
  cases h with
  | instant t => exact .inl (ofInstant_whole t)
  | later _ hlater => exact .inl (addMillis?_whole hlater)
  | document hread =>
    obtain ⟨s, rfl, htext⟩ := ofJson_eq_ok_iff.mp hread
    by_cases hpoint : '.' ∈ s.toList
    · exact .inr ⟨s, hread, .inl hpoint⟩
    · rcases Instant.nanos_of_no_point hpoint htext with hzero | hleap
      · exact .inl hzero
      · exact .inr ⟨s, hread, .inr hleap⟩

end Timestamp

/-! ## Records -/

/-- A list whose numbers fit their columns comes back from its row iff its times are whole
seconds. -/
theorem ListRow.exists_toList_iff {l : StatusList} (hcapacity : l.capacity.toNat < 2 ^ 63)
    (hused : l.used.toNat < 2 ^ 63) (httl : ∀ n, l.ttl = some n → n.toNat < 2 ^ 63) :
    ∃ row, ofList l = .ok row ∧ (row.toList = .ok l ↔ l.createdAt.Whole ∧ l.updatedAt.Whole) := by
  obtain ⟨row, hrow⟩ := exists_writes hcapacity hused httl
  refine ⟨row, ofList_eq_ok_iff.mpr hrow, ?_, fun h => toList_of_writes hrow h.1 h.2⟩
  intro hback
  have hreads := toList_eq_ok_iff.mp hback
  rw [hreads.createdAt_eq, hreads.updatedAt_eq]
  exact ⟨Timestamp.ofInstant_whole _, Timestamp.ofInstant_whole _⟩

/-- An entry whose index fits its column comes back from its row iff its times are whole seconds. -/
theorem EntryRow.exists_toEntry_iff {e : StatusEntry} (hindex : e.index.toNat < 2 ^ 63) :
    ∃ row, ofEntry e = .ok row ∧ (row.toEntry = .ok e ↔ e.createdAt.Whole ∧ e.updatedAt.Whole) := by
  obtain ⟨row, hrow⟩ := exists_writes hindex
  refine ⟨row, ofEntry_eq_ok_iff.mpr hrow, ?_, fun h => toEntry_of_writes hrow h.1 h.2⟩
  intro hback
  have hreads := toEntry_eq_ok_iff.mp hback
  rw [hreads.createdAt_eq, hreads.updatedAt_eq]
  exact ⟨Timestamp.ofInstant_whole _, Timestamp.ofInstant_whole _⟩

namespace Timestamp

/-- What a timestamp is, and what is kept of it. -/
structure Kept (t : Timestamp) : Prop where
  /-- It is a whole second, or it was read from a text with a fraction or of a leap second. -/
  obtained : t.Obtained → t.Whole ∨ ∃ s, ofJson (.string s) = .ok t ∧
    ('.' ∈ s.toList ∨ t.instant.nanos = 1000000000)
  /-- What is some time after it is a whole second. -/
  later : ∀ millis u, t.addMillis? millis = some u → u.Whole
  /-- A document keeps all of it. -/
  document : ofJson t.toJson = .ok t
  /-- Its instant makes it again iff it is a whole second. -/
  instant_iff : ofInstant t.instant = t ↔ t.Whole
  /-- Its text is that in a document iff it has no fraction, or none but that of a leap second. -/
  text_iff : t.toJson = .string t.text ↔ t.instant.nanos % 1000000000 = 0

/-- **A timestamp is a whole second unless it was read with a fraction or as a leap second, and a
record whose numbers fit their columns comes back from its row iff both its times are whole
seconds.** -/
theorem kept_iff_whole (t : Timestamp) {l : StatusList} {e : StatusEntry}
    (hcapacity : l.capacity.toNat < 2 ^ 63) (hused : l.used.toNat < 2 ^ 63)
    (httl : ∀ n, l.ttl = some n → n.toNat < 2 ^ 63) (hindex : e.index.toNat < 2 ^ 63) :
    t.Kept ∧
      (∃ row, ListRow.ofList l = .ok row ∧
        (row.toList = .ok l ↔ l.createdAt.Whole ∧ l.updatedAt.Whole)) ∧
      ∃ row, EntryRow.ofEntry e = .ok row ∧
        (row.toEntry = .ok e ↔ e.createdAt.Whole ∧ e.updatedAt.Whole) :=
  ⟨⟨Obtained.whole_or_read, fun _ _ => addMillis?_whole, undoes.read_write t,
    whole_iff_ofInstant.symm, toJson_eq_text_iff⟩,
    ListRow.exists_toList_iff hcapacity hused httl, EntryRow.exists_toEntry_iff hindex⟩

/-! ## Half a second -/

namespace Sample

/-- Half a second after the start of 2026. -/
def half : Timestamp := ⟨⟨1767225600, 500000000, by decide, by decide, by decide⟩⟩

theorem half_not_whole : ¬ half.Whole := show half.instant.nanos ≠ 0 by decide

/-- The list of the sample store, changed then. -/
def list : StatusList := { Memory.Sample.list with updatedAt := half }

end Sample

/-- Half a second is obtained from a document, and a list that was changed then is no list that
comes back from its row, while an entry in whole seconds is. -/
theorem sample_kept_iff_whole :
    Sample.half.Obtained ∧ ofInstant Sample.half.instant ≠ Sample.half ∧
      (∃ row, ListRow.ofList Sample.list = .ok row ∧ row.toList ≠ .ok Sample.list) ∧
      ∃ row, EntryRow.ofEntry Memory.Sample.entry = .ok row ∧
        row.toEntry = .ok Memory.Sample.entry := by
  obtain ⟨hkept, ⟨row, hrow, hlist⟩, row', hrow', hentry⟩ :=
    kept_iff_whole Sample.half (l := Sample.list) (e := Memory.Sample.entry) (by decide) (by decide)
      nofun (by decide)
  refine ⟨.document hkept.document, ?_, ⟨row, hrow, fun hback => ?_⟩, row', hrow', ?_⟩
  · rw [ne_eq, hkept.instant_iff]
    exact Sample.half_not_whole
  · exact Sample.half_not_whole (hlist.mp hback).2
  · exact hentry.mpr ⟨rfl, rfl⟩

/-- A text with a fraction is read with it, so the timestamp has two texts, its instant does not
make it again, and the list of a document that has it does not come back from its row. -/
theorem fraction_not_kept :
    ofJson (.string "2026-01-01T00:00:00.5Z") = .ok Sample.half ∧
      Sample.half.instant.nanos ≠ 0 ∧ Sample.half.toJson ≠ .string Sample.half.text ∧
      ofInstant Sample.half.instant ≠ Sample.half ∧
      StatusList.ofJson Sample.list.toJson = .ok Sample.list ∧
      ∃ row, ListRow.ofList Sample.list = .ok row ∧ row.toList ≠ .ok Sample.list := by
  refine ⟨rfl, by decide, ?_, by decide, StatusList.undoes.read_write _, ?_⟩
  · rw [ne_eq, toJson_eq_text_iff]
    decide
  · obtain ⟨row, hrow, hiff⟩ := ListRow.exists_toList_iff (l := Sample.list) (by decide) (by decide)
      nofun
    refine ⟨row, hrow, fun hback => ?_⟩
    exact Sample.half_not_whole (hiff.mp hback).2

end Timestamp

end StatusRegistry

import StatusRegistry.Proofs.Json.Reading
import StatusRegistry.Proofs.Text.Numeral
import StatusRegistry.Uuid

/-!
# UUIDs read back

The text of a UUID is one of the accepted forms, and it is read as no other UUID.

* `ofHyphenated?_groups`: five groups of digits with hyphens between them;
* `ofText?_text`: the round trip.
-/

set_option autoImplicit false

namespace StatusRegistry.Uuid

open Text

/-! ## Digits -/

theorem length_digits (u : Uuid) : u.digits.length = 32 := by
  have hlt : u.toNat < 16 ^ (31 + 1) := u.number.isLt
  exact length_filled (by simpa [hex] using length_digitsRev_le (by decide) hlt)

theorem exists_digit {u : Uuid} {c : Char} (h : c ∈ u.digits) : ∃ d < 16, c = digitChar d := by
  rcases mem_padZeros h with rfl | hc
  · exact ⟨0, by decide, rfl⟩
  · exact exists_digit_of_mem (by decide) _ c (List.mem_reverse.mp hc)

/-- No digit is the brace or the letter that other forms begin with. -/
theorem digit_marks {d : Nat} (h : d < 16) :
    digitChar d ≠ '\x7b' ∧ lowerAscii (digitChar d) ≠ 'u' := by
  have : ∀ k : Fin 16, digitChar k.val ≠ '\x7b' ∧ lowerAscii (digitChar k.val) ≠ 'u' := by decide
  exact this ⟨d, h⟩

theorem ofDigits?_digits (u : Uuid) : ofDigits? u.digits = some u := by
  rw [ofDigits?, if_pos u.length_digits, digits, value?_zeros (by decide) (hex_ne_nil _),
    value?_hex, Option.map_some]
  exact congrArg some (toNat_inj (Nat.mod_eq_of_lt u.number.isLt))

/-! ## Groups -/

/-- Five groups of digits are read as the digits they are made of. -/
theorem ofHyphenated?_groups {a b c d e : List Char} (ha : a.length = 8) (hb : b.length = 4)
    (hc : c.length = 4) (hd : d.length = 4) (he : e.length = 12) :
    ofHyphenated? (a ++ '-' :: b ++ '-' :: c ++ '-' :: d ++ '-' :: e) =
      ofDigits? (a ++ b ++ c ++ d ++ e) := by
  unfold ofHyphenated?
  rw [if_pos (by simp [ha, hb, hc, hd, he])]
  simp [List.drop_append, List.drop_eq_nil_of_le, ha, hb, hc, hd]

/-- The characters of the text: the digits in groups of 8, 4, 4, 4 and 12. -/
def groups (u : Uuid) : List Char :=
  u.digits.take 8 ++ '-' :: (u.digits.drop 8).take 4 ++ '-' :: (u.digits.drop 12).take 4 ++
    '-' :: (u.digits.drop 16).take 4 ++ '-' :: u.digits.drop 20

theorem toList_text (u : Uuid) : u.text.toList = u.groups := String.toList_ofList

theorem length_groups (u : Uuid) : u.groups.length = 36 := by
  simp [groups, length_digits]

/-- A character of the text: a hyphen or a digit. -/
theorem mem_groups {u : Uuid} {c : Char} (h : c ∈ u.groups) : c = '-' ∨ c ∈ u.digits := by
  have hpart : ∀ k n, c ∈ (u.digits.drop k).take n → c ∈ u.digits := fun k n hc =>
    List.mem_of_mem_drop (List.mem_of_mem_take hc)
  simp only [groups, List.mem_append, List.mem_cons] at h
  rcases h with (((hc | rfl | hc) | rfl | hc) | rfl | hc) | rfl | hc
  · exact .inr (List.mem_of_mem_take hc)
  · exact .inl rfl
  · exact .inr (hpart _ _ hc)
  · exact .inl rfl
  · exact .inr (hpart _ _ hc)
  · exact .inl rfl
  · exact .inr (hpart _ _ hc)
  · exact .inl rfl
  · exact .inr (List.mem_of_mem_drop hc)

theorem ofHyphenated?_text (u : Uuid) : ofHyphenated? u.groups = some u := by
  have hjoin : u.digits.take 8 ++ (u.digits.drop 8).take 4 ++ (u.digits.drop 12).take 4 ++
      (u.digits.drop 16).take 4 ++ u.digits.drop 20 = u.digits := by
    have hnext : ∀ k, (u.digits.drop k).take 4 ++ u.digits.drop (k + 4) = u.digits.drop k := by
      intro k
      rw [← List.drop_drop, List.take_append_drop]
    rw [List.append_assoc, hnext 16, List.append_assoc, hnext 12, List.append_assoc, hnext 8,
      List.take_append_drop]
  rw [groups, ofHyphenated?_groups (by simp [length_digits]) (by simp [length_digits])
    (by simp [length_digits]) (by simp [length_digits]) (by simp [length_digits]), hjoin,
    ofDigits?_digits]

/-- The text begins with a digit. -/
theorem exists_groups_cons (u : Uuid) : ∃ d < 16, ∃ rest, u.groups = digitChar d :: rest := by
  cases hdigits : u.digits with
  | nil =>
    have hlength := u.length_digits
    rw [hdigits] at hlength
    cases hlength
  | cons c cs =>
    obtain ⟨d, hd, rfl⟩ : ∃ d < 16, c = digitChar d := exists_digit (u := u) (by simp [hdigits])
    exact ⟨d, hd, _, by rw [groups, hdigits]; rfl⟩

/-- **The text of a UUID is read as that UUID.** -/
theorem ofText?_text (u : Uuid) : ofText? u.text = some u := by
  obtain ⟨d, hd, rest, hrest⟩ := u.exists_groups_cons
  obtain ⟨hbrace, hletter⟩ := digit_marks hd
  unfold ofText?
  rw [toList_text]
  split
  · rename_i heq
    rw [hrest] at heq
    exact absurd (List.cons.inj heq).1 hbrace
  · rw [if_neg (by simp [length_groups]), if_neg, ofHyphenated?_text]
    rw [hrest]
    intro heq
    exact hletter (List.cons.inj heq).1

theorem undoes : Reader.Undoes ofJson toJson := by
  refine ⟨?_, fun _ h => nomatch h⟩
  intro u
  simp only [ofJson, toJson, ofText?_text]

end StatusRegistry.Uuid

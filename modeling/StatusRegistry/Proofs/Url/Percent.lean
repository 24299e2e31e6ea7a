import StatusRegistry.Proofs.Text.Numeral
import StatusRegistry.Url.Reader

/-!
# Characters of URLs

Which characters stand in the parts of a URL.

* `Plain`: a character that neither ends a path nor is left out when a URL is read;
* `keeps_of_mem_encode`: a part keeps every character of a text that it has written;
* `decode_of_ascii`: a text in ASCII without a percent sign stands for its own bytes.
-/

set_option autoImplicit false

namespace StatusRegistry.Url

open Text

/-- A visible character of ASCII that does not end a path. -/
def Plain (c : Char) : Prop := 0x20 < c.toNat ∧ c.toNat < 0x7f ∧ endsPath c = false

instance (c : Char) : Decidable (Plain c) := inferInstanceAs (Decidable (_ ∧ _ ∧ _))

theorem endsPath_of_plain {c : Char} (h : Plain c) : endsPath c = false := h.2.2

theorem isBreak_of_le {c : Char} (h : 0x20 ≤ c.toNat) : isBreak c = false := by
  rw [← Bool.not_eq_true]
  intro hbreak
  simp only [isBreak, Bool.or_eq_true, beq_iff_eq] at hbreak
  rcases hbreak with (rfl | rfl) | rfl
  · exact absurd h (by decide)
  · exact absurd h (by decide)
  · exact absurd h (by decide)

/-- A text without controls has no characters that are left out. -/
theorem withoutBreaks_of_le {cs : List Char} (h : ∀ c ∈ cs, 0x20 ≤ c.toNat) :
    withoutBreaks cs = cs := by
  rw [withoutBreaks, List.filter_eq_self]
  intro c hc
  rw [isBreak_of_le (h c hc)]
  rfl

/-- What is so of the characters of a text, one by one. -/
theorem forall_mem_of_all {P : Char → Prop} [DecidablePred P] {cs : List Char}
    (h : cs.all (fun c => decide (P c)) = true) : ∀ c ∈ cs, P c :=
  fun c hc => of_decide_eq_true (List.all_eq_true.mp h c hc)

theorem withoutBreaks_of_plain {cs : List Char} (h : ∀ c ∈ cs, Plain c) : withoutBreaks cs = cs :=
  withoutBreaks_of_le fun c hc => Nat.le_of_lt (h c hc).1

/-! ## Percent encoding -/

/-- The percent sign and the digits behind it. -/
def escapeChars : List Char :=
  ['%', '0', '1', '2', '3', '4', '5', '6', '7', '8', '9', 'A', 'B', 'C', 'D', 'E', 'F']

theorem mem_escapeByte {b : UInt8} {c : Char} (h : c ∈ escapeByte b) : c ∈ escapeChars := by
  have hdigit : ∀ n, n < 16 → upperAscii (digitChar n) ∈ escapeChars := by
    intro n hn
    have : ∀ k : Fin 16, upperAscii (digitChar k.val) ∈ escapeChars := by decide
    exact this ⟨n, hn⟩
  have hb := b.toNat_lt
  simp only [escapeByte, List.mem_cons, List.not_mem_nil, or_false] at h
  rcases h with rfl | rfl | rfl
  · decide
  · exact hdigit _ (by omega)
  · exact hdigit _ (by omega)

theorem keeps_of_mem_escapeChars (part : Part) {c : Char} (h : c ∈ escapeChars) :
    part.keeps c = true := by
  refine forall_mem_of_all (P := fun c => part.keeps c = true) ?_ c h
  cases part <;> decide

/-- What is so of every visible character of ASCII, and the blank, that a part keeps. -/
theorem forall_keeps {part : Part} {P : Char → Prop}
    (h : ∀ k : Fin 127, part.keeps (Char.ofNat k.val) = true → P (Char.ofNat k.val)) {c : Char}
    (hc : part.keeps c = true) : P c := by
  have hlt : c.toNat < 127 := by
    simp only [Part.keeps, Bool.and_eq_true, decide_eq_true_eq] at hc
    exact hc.1.2
  have hk := h ⟨c.toNat, hlt⟩
  simp only [Char.ofNat_toNat] at hk
  exact hk hc

/-- A character that a part writes is one of the text that the part keeps, or it is part of an
escape. -/
theorem mem_encode {part : Part} {cs : List Char} {c : Char} (h : c ∈ encode part cs) :
    (c ∈ cs ∧ part.keeps c = true) ∨ c ∈ escapeChars := by
  obtain ⟨d, hd, hc⟩ := List.mem_flatMap.mp h
  unfold encodeChar at hc
  split at hc
  · rename_i hkeeps
    rw [List.mem_singleton] at hc
    subst hc
    exact .inl ⟨hd, hkeeps⟩
  · obtain ⟨b, -, hb⟩ := List.mem_flatMap.mp hc
    exact .inr (mem_escapeByte hb)

theorem keeps_of_mem_encode {part : Part} {cs : List Char} {c : Char} (h : c ∈ encode part cs) :
    part.keeps c = true := by
  rcases mem_encode h with ⟨-, hkeeps⟩ | hescape
  · exact hkeeps
  · exact keeps_of_mem_escapeChars part hescape

/-- What a part writes begins as the text does, or with an escape. -/
theorem head?_encode (part : Part) (c : Char) (cs : List Char) :
    (encode part (c :: cs)).head? = some c ∨ (encode part (c :: cs)).head? = some '%' := by
  rw [encode, List.flatMap_cons, encodeChar]
  split
  · exact .inl rfl
  · right
    have hsome : String.utf8EncodeChar c ≠ [] := by
      have hpos := Char.utf8Size_pos c
      intro hnil
      have hlength := String.length_utf8EncodeChar c
      rw [hnil, List.length_nil] at hlength
      omega
    obtain ⟨b, bs, hbytes⟩ := List.exists_cons_of_ne_nil hsome
    rw [hbytes]
    rfl

theorem utf8EncodeChar_of_ascii {c : Char} (h : c.toNat < 0x80) :
    String.utf8EncodeChar c = [UInt8.ofNat c.toNat] := by
  have hsize : c.utf8Size = 1 := Char.utf8Size_eq_one_iff.mpr (Nat.le_of_lt_succ h)
  rw [String.utf8EncodeChar_eq_singleton hsize]
  rfl

/-- A text in ASCII without a percent sign stands for the bytes of its characters. -/
theorem decode_of_ascii {cs : List Char} (h : ∀ c ∈ cs, c ≠ '%' ∧ c.toNat < 0x80) :
    decode cs = cs.map fun c => UInt8.ofNat c.toNat := by
  induction cs with
  | nil => rfl
  | cons c cs ih =>
    obtain ⟨hpercent, hascii⟩ := h c (List.mem_cons_self ..)
    have hcs := ih fun d hd => h d (List.mem_cons_of_mem c hd)
    rw [decode, hcs, utf8EncodeChar_of_ascii hascii]
    · rfl
    · rintro a b rest rfl
      exact absurd rfl hpercent

end StatusRegistry.Url

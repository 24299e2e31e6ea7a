import StatusRegistry.Bytes.Basic

/-!
# Positions of byte sequences

What stands at each position of bytes that were joined, and what writing one byte changes.

* `byteAt_part`: the bytes of a part stand behind those in front of it;
* `byteAt_append`, `extract_append`: bytes behind others leave these as they are;
* `append_inj`: joined bytes can be taken apart in one way at each position;
* `byteAt_set_self`, `byteAt_set_of_ne`: writing a byte changes that byte alone;
* `eq_of_byteAt`: arrays of one size with the same byte at every position are the same.
-/

set_option autoImplicit false

namespace StatusRegistry.Bytes

theorem toBytes_append (a b : ByteArray) : toBytes (a ++ b) = toBytes a ++ toBytes b := by
  simp only [toBytes, ByteArray.data_append, Array.toList_append]

theorem toBytes_extract (data : ByteArray) (i j : Nat) :
    toBytes (data.extract i j) = ((toBytes data).drop i).take (j - i) := by
  simp only [toBytes, ByteArray.data_extract, Array.toList_extract, List.extract_eq_take_drop]

theorem byteAt_part {data : ByteArray} {front part rest : List UInt8} {k : Nat}
    (h : toBytes data = front ++ (part ++ rest)) (hk : k < part.length) :
    byteAt data (front.length + k) = part.getD k 0 := by
  rw [byteAt_eq_getD, h, List.getElem?_append_right (Nat.le_add_right _ _),
    Nat.add_sub_cancel_left, List.getElem?_append_left hk, List.getD_eq_getElem?_getD]

theorem byteAt_append {a : ByteArray} {i : Nat} (h : i < a.size) (b : ByteArray) :
    byteAt (a ++ b) i = byteAt a i := by
  rw [byteAt_eq_getD, toBytes_append, List.getElem?_append_left h, ← byteAt_eq_getD]

theorem extract_append {a : ByteArray} {i j : Nat} (hi : i ≤ j) (hj : j ≤ a.size) (b : ByteArray) :
    (a ++ b).extract i j = a.extract i j := by
  apply toBytes_injective
  have hlength : (toBytes a).length = a.size := length_toBytes a
  rw [toBytes_extract, toBytes_extract, toBytes_append,
    List.drop_append_of_le_length (by omega),
    List.take_append_of_le_length (by rw [List.length_drop]; omega)]

theorem append_inj {a b c d : ByteArray} (h : a ++ b = c ++ d) (hsize : a.size = c.size) :
    a = c ∧ b = d := by
  have hbytes := congrArg toBytes h
  rw [toBytes_append, toBytes_append] at hbytes
  exact (List.append_inj hbytes hsize).imp toBytes_injective toBytes_injective

theorem byteAt_zeros (n i : Nat) : byteAt (zeros n) i = 0 := by
  rw [byteAt_eq_getD, toBytes_zeros, List.getElem?_replicate]
  split <;> rfl

@[simp] theorem size_zeros (n : Nat) : (zeros n).size = n := by
  rw [← length_toBytes, toBytes_zeros, List.length_replicate]

theorem toBytes_set (data : ByteArray) (i : Nat) (b : UInt8) :
    toBytes (data.set! i b) = (toBytes data).set i b := by
  simp [toBytes, ByteArray.set!]

@[simp] theorem size_set (data : ByteArray) (i : Nat) (b : UInt8) :
    (data.set! i b).size = data.size := by
  rw [← length_toBytes, toBytes_set, List.length_set, length_toBytes]

theorem byteAt_set_self {data : ByteArray} {i : Nat} (h : i < data.size) (b : UInt8) :
    byteAt (data.set! i b) i = b := by
  rw [byteAt_eq_getD, toBytes_set, List.getElem?_set_self (by simpa using h), Option.getD_some]

theorem byteAt_set_of_ne {i j : Nat} (h : i ≠ j) (data : ByteArray) (b : UInt8) :
    byteAt (data.set! i b) j = byteAt data j := by
  rw [byteAt_eq_getD, toBytes_set, List.getElem?_set_ne h, ← byteAt_eq_getD]

theorem eq_of_byteAt {a b : ByteArray} (hsize : a.size = b.size)
    (h : ∀ i < a.size, byteAt a i = byteAt b i) : a = b := by
  apply same_iff.mp
  rw [same, sameUpTo_iff.mpr h, hsize, beq_self_eq_true, Bool.true_and]

end StatusRegistry.Bytes

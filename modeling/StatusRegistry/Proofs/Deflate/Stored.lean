import StatusRegistry.Deflate.Stored
import StatusRegistry.Proofs.Deflate.Bits

/-!
# Stored content reads back

What the reader makes of stored blocks, one after another up to the last one.

* `readBlock_stored`: a stored block gives its content as it is;
* `readBlocks_storedFrom`: so do all blocks together, by induction on their number;
* `size_store`: stored content takes five bytes for each block beside the content.
-/

set_option autoImplicit false

namespace StatusRegistry.Deflate

open Bytes

/-! ## The layout of stored blocks -/

/-- The bytes in front of a stored block. -/
def storedHeaderBytes (last : Bool) (length : Nat) : List UInt8 :=
  [if last then 1 else 0, .ofNat length, .ofNat (length / 256), .ofNat (maxStored - length),
    .ofNat ((maxStored - length) / 256)]

theorem toBytes_storedHeader (last : Bool) (length : Nat) :
    toBytes (storedHeader last length) = storedHeaderBytes last length :=
  toBytes_ofBytes _

/-- The stored blocks of content, as bytes. -/
def storedBytes : Nat → List UInt8 → List UInt8
  | 0, content => storedHeaderBytes true content.length ++ content
  | blocks + 1, content =>
    storedHeaderBytes false maxStored ++ content.take maxStored ++
      storedBytes blocks (content.drop maxStored)

theorem toBytes_storedFrom (data : ByteArray) :
    ∀ (blocks left : Nat) (out : ByteArray), maxStored * blocks ≤ left → left ≤ data.size →
      toBytes (storedFrom data blocks left out) =
        toBytes out ++ storedBytes blocks ((toBytes data).drop (data.size - left))
  | 0, left, out, _, hle => by
    have hlen : ((toBytes data).drop (data.size - left)).length = left := by
      rw [List.length_drop, length_toBytes]
      omega
    have hall : ((toBytes data).drop (data.size - left)).take (data.size - (data.size - left)) =
        (toBytes data).drop (data.size - left) :=
      List.take_of_length_le (by omega)
    simp only [storedFrom, storedBytes, toBytes_append, toBytes_storedHeader, toBytes_extract,
      hlen, hall, List.append_assoc]
  | blocks + 1, left, out, hge, hle => by
    have hmax : maxStored ≤ left := by
      rw [Nat.mul_succ] at hge
      omega
    have hrest : data.size - (left - maxStored) = data.size - left + maxStored := by omega
    rw [storedFrom, toBytes_storedFrom data blocks (left - maxStored) _
      (by rw [Nat.mul_succ] at hge; omega) (by omega)]
    simp only [storedBytes, toBytes_append, toBytes_storedHeader, toBytes_extract,
      List.append_assoc, Nat.add_sub_cancel_left, hrest, List.drop_drop]

/-- Stored content is the stored blocks of its bytes. -/
theorem toBytes_store (data : ByteArray) :
    toBytes (store data) = storedBytes ((data.size - 1) / maxStored) (toBytes data) := by
  have hblocks : maxStored * ((data.size - 1) / maxStored) ≤ data.size :=
    Nat.le_trans (Nat.mul_div_le _ _) (Nat.sub_le _ _)
  rw [store, toBytes_storedFrom data _ _ _ hblocks (Nat.le_refl _), Nat.sub_self, List.drop_zero]
  rfl

theorem length_storedBytes :
    ∀ (blocks : Nat) (content : List UInt8), maxStored * blocks ≤ content.length →
      (storedBytes blocks content).length = content.length + 5 * (blocks + 1)
  | 0, content, _ => by
    simp only [storedBytes, storedHeaderBytes, List.length_append, List.length_cons,
      List.length_nil]
    omega
  | blocks + 1, content, hge => by
    rw [Nat.mul_succ] at hge
    have hdrop : (content.drop maxStored).length = content.length - maxStored :=
      List.length_drop
    have htake : (content.take maxStored).length = maxStored := by
      rw [List.length_take]
      omega
    simp only [storedBytes, storedHeaderBytes, List.length_append, List.length_cons,
      List.length_nil, length_storedBytes blocks (content.drop maxStored) (by omega), hdrop, htake]
    omega

/-- Stored content takes five bytes for each block beside the content. -/
theorem size_store (data : ByteArray) :
    (store data).size = data.size + 5 * ((data.size - 1) / maxStored + 1) := by
  have hblocks : maxStored * ((data.size - 1) / maxStored) ≤ data.size :=
    Nat.le_trans (Nat.mul_div_le _ _) (Nat.sub_le _ _)
  rw [← length_toBytes, toBytes_store, length_storedBytes _ _ (by simpa using hblocks),
    length_toBytes]

/-! ## Reading stored blocks -/

theorem readBits_two {src : ByteArray} {pos : Nat} {a b : Bool} (ha : bit? src pos = some a)
    (hb : bit? src (pos + 1) = some b) : readBits src 2 pos = .ok (a.toNat + 2 * b.toNat) := by
  simp only [readBits, ha, hb, Nat.mul_zero, Nat.add_zero]

/-- The three bits in front of a stored block: whether it is the last one, and its kind. -/
theorem storedBits {src : ByteArray} {i : Nat} {last : Bool} (hi : i < src.size)
    (h : byteAt src i = if last then 1 else 0) :
    bit? src (8 * i) = some last ∧ readBits src 2 (8 * i + 1) = .ok 0 := by
  have hbit : ∀ k, k < 8 → bit? src (8 * i + k) = some ((byteAt src i).toNat.testBit k) := by
    intro k hk
    have hdiv : (8 * i + k) / 8 = i := by omega
    have hmod : (8 * i + k) % 8 = k := by omega
    rw [bit?_eq (by omega), hdiv, hmod]
  constructor
  · rw [show 8 * i = 8 * i + 0 from rfl, hbit 0 (by omega), h]
    cases last <;> rfl
  · rw [readBits_two (hbit 1 (by omega)) (hbit 2 (by omega)), h]
    cases last <;> rfl

theorem readLittle_eq {src : ByteArray} {i n : Nat} (h₀ : byteAt src i = .ofNat n)
    (h₁ : byteAt src (i + 1) = .ofNat (n / 256)) (hn : n ≤ maxStored) :
    readLittle src i = n := by
  unfold maxStored at hn
  rw [readLittle, h₀, h₁, UInt8.toNat_ofNat', UInt8.toNat_ofNat']
  omega

/-- **A stored block gives its content as it is.** -/
theorem readBlock_stored {src : ByteArray} {front content rest : List UInt8} {last : Bool}
    (hsrc : toBytes src = front ++ (storedHeaderBytes last content.length ++ content ++ rest))
    (hlen : content.length ≤ maxStored) (limit : Nat) (out : ByteArray) :
    bit? src (8 * front.length) = some last ∧
      readBlock src limit (8 * front.length + 1) out =
        .ok (8 * (front.length + 5 + content.length), out ++ ofBytes content) := by
  have hsize : src.size = front.length + (5 + content.length + rest.length) := by
    rw [← length_toBytes, hsrc]
    simp only [storedHeaderBytes, List.length_append, List.length_cons, List.length_nil]
  have hbyte : ∀ k, k < 5 → byteAt src (front.length + k) =
      (storedHeaderBytes last content.length).getD k 0 := by
    intro k hk
    rw [List.append_assoc] at hsrc
    exact byteAt_part hsrc hk
  obtain ⟨hlast, hkind⟩ : bit? src (8 * front.length) = some last ∧
      readBits src 2 (8 * front.length + 1) = .ok 0 :=
    storedBits (by omega) (hbyte 0 (by omega))
  have hfirst : readLittle src (front.length + 1) = content.length :=
    readLittle_eq (hbyte 1 (by omega)) (hbyte 2 (by omega)) hlen
  have hsecond : readLittle src (front.length + 3) = maxStored - content.length :=
    readLittle_eq (hbyte 3 (by omega)) (hbyte 4 (by omega)) (Nat.sub_le _ _)
  have hcontent : src.extract (front.length + 5) (front.length + 5 + content.length) =
      ofBytes content := by
    apply toBytes_injective
    have hdrop : (toBytes src).drop (front.length + 5) = content ++ rest := by
      rw [hsrc, ← List.drop_drop, List.drop_left, List.append_assoc]
      rfl
    rw [toBytes_extract, toBytes_ofBytes, hdrop, Nat.add_sub_cancel_left, List.take_left]
  refine ⟨hlast, ?_⟩
  have hstart : (8 * front.length + 1 + 2 + 7) / 8 = front.length + 1 := by omega
  unfold readBlock
  rw [hkind]
  simp only [if_true, readStored, hstart, hfirst, Nat.add_assoc front.length 1, Nat.reduceAdd,
    hsecond]
  unfold maxStored at hlen ⊢
  rw [if_neg (by omega), if_neg (by omega), if_neg (by omega), hcontent]

theorem size_append_ofBytes (out : ByteArray) (content : List UInt8) :
    (out ++ ofBytes content).size = out.size + content.length := by
  rw [ByteArray.size_append, ← length_toBytes (ofBytes content), toBytes_ofBytes]

theorem append_ofBytes_append (out : ByteArray) (first later : List UInt8) :
    out ++ ofBytes first ++ ofBytes later = out ++ ofBytes (first ++ later) := by
  apply toBytes_injective
  simp only [toBytes_append, toBytes_ofBytes, List.append_assoc]

/-- Behind a stored block that is within the limit the next one is read, if it is not the last. -/
theorem readBlocks_stored {src : ByteArray} {front content rest : List UInt8} {last : Bool}
    (hsrc : toBytes src = front ++ (storedHeaderBytes last content.length ++ content ++ rest))
    (hlen : content.length ≤ maxStored) {limit : Nat} {out : ByteArray}
    (hlimit : out.size + content.length ≤ limit) (fuel : Nat) :
    readBlocks src limit (fuel + 1) (8 * front.length) out =
      if last then .ok (8 * (front.length + 5 + content.length), out ++ ofBytes content)
      else readBlocks src limit fuel (8 * (front.length + 5 + content.length))
        (out ++ ofBytes content) := by
  obtain ⟨hlast, hblock⟩ := readBlock_stored hsrc hlen limit out
  rw [readBlocks, hlast]
  simp only [hblock, size_append_ofBytes, if_neg (Nat.not_lt.mpr hlimit)]

/-- **Stored blocks give their content as it is**, up to the last one. -/
theorem readBlocks_storedFrom {src : ByteArray} {limit : Nat} :
    ∀ {blocks fuel : Nat} {front content rest : List UInt8} {out : ByteArray},
      toBytes src = front ++ (storedBytes blocks content ++ rest) →
      maxStored * blocks ≤ content.length → content.length ≤ maxStored * (blocks + 1) →
      blocks < fuel → out.size + content.length ≤ limit →
        readBlocks src limit fuel (8 * front.length) out =
          .ok (8 * (front.length + (storedBytes blocks content).length), out ++ ofBytes content)
  | 0, fuel + 1, front, content, rest, out, hsrc, _, hle, _, hlimit => by
    rw [readBlocks_stored hsrc (by omega) hlimit, if_pos rfl,
      length_storedBytes 0 content (by omega)]
    congr 3
    omega
  | blocks + 1, fuel + 1, front, content, rest, out, hsrc, hge, hle, hfuel, hlimit => by
    rw [Nat.mul_succ] at hge hle
    obtain ⟨first, later, rfl, hfirst⟩ : ∃ first later, content = first ++ later ∧
        first.length = maxStored :=
      ⟨_, _, (List.take_append_drop maxStored content).symm, by rw [List.length_take]; omega⟩
    rw [List.length_append] at hge hle hlimit
    have hbytes : storedBytes (blocks + 1) (first ++ later) =
        storedHeaderBytes false first.length ++ first ++ storedBytes blocks later := by
      rw [storedBytes, List.take_left' hfirst, List.drop_left' hfirst, hfirst]
    have hblock : toBytes src = front ++ (storedHeaderBytes false first.length ++ first ++
        (storedBytes blocks later ++ rest)) := by
      rw [hsrc, hbytes, List.append_assoc _ _ rest]
    have hmore : toBytes src = (front ++ (storedHeaderBytes false first.length ++ first)) ++
        (storedBytes blocks later ++ rest) := by
      rw [hblock, List.append_assoc front]
    have hfront : (front ++ (storedHeaderBytes false first.length ++ first)).length =
        front.length + 5 + first.length := by
      simp only [storedHeaderBytes, List.length_append, List.length_cons, List.length_nil]
      omega
    have hlimit' : (out ++ ofBytes first).size + later.length ≤ limit := by
      rw [size_append_ofBytes]
      omega
    have hlater := readBlocks_storedFrom hmore (by omega) (by omega) (Nat.lt_of_succ_lt_succ hfuel)
      hlimit'
    rw [readBlocks_stored hblock (Nat.le_of_eq hfirst) (by omega), if_neg Bool.false_ne_true,
      ← hfront, hlater, hfront, append_ofBytes_append, hbytes]
    congr 3
    simp only [storedHeaderBytes, List.length_append, List.length_cons, List.length_nil]
    omega

/-- **Stored content reads back.** -/
theorem inflate_store {src : ByteArray} {front rest : List UInt8} {data : ByteArray} {limit : Nat}
    (hsrc : toBytes src = front ++ (toBytes (store data) ++ rest)) (hlimit : data.size ≤ limit) :
    inflate src limit front.length = .ok (front.length + (store data).size, data) := by
  have hge : maxStored * ((data.size - 1) / maxStored) ≤ (toBytes data).length :=
    Nat.le_trans (Nat.mul_div_le _ _) (Nat.sub_le _ _)
  have hle : (toBytes data).length ≤ maxStored * ((data.size - 1) / maxStored + 1) := by
    have := Nat.lt_mul_div_succ (data.size - 1) (show 0 < maxStored by decide)
    rw [length_toBytes]
    omega
  have hsize : src.size = front.length + ((store data).size + rest.length) := by
    rw [← length_toBytes, hsrc, List.length_append, List.length_append, length_toBytes]
  have hfuel : (data.size - 1) / maxStored < 8 * src.size := by
    rw [hsize, size_store]
    omega
  rw [toBytes_store] at hsrc
  have hblocks : readBlocks src limit (8 * src.size) (8 * front.length) ByteArray.empty = _ :=
    readBlocks_storedFrom hsrc hge hle hfuel (by simpa using hlimit)
  have hpos : (8 * (front.length + (store data).size) + 7) / 8 =
      front.length + (store data).size := by omega
  have hout : ByteArray.empty ++ ofBytes (toBytes data) = data := by
    apply toBytes_injective
    rw [toBytes_append, toBytes_ofBytes]
    rfl
  unfold inflate
  rw [hblocks]
  simp only [← toBytes_store, length_toBytes, hpos, hout]

end StatusRegistry.Deflate

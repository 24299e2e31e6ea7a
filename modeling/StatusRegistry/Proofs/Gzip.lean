import StatusRegistry.Proofs.Deflate.Stored
import StatusRegistry.Proofs.Gzip.Reader

/-!
# GZIP members read back

A member that was written is read as its content, whichever of its two forms was taken.

* `expand_limit`: what becomes of a member below every limit;
* `Written`, `written_of_expand`: what is used of bytes that were written for a content, and that it
  holds of all bytes that are read as the content;
* `member_store`, `expand_member_store`: stored content is written as one member, which reads back;
* `compress_written`: so does every member that is written.
-/

set_option autoImplicit false

namespace StatusRegistry.Gzip

open Bytes Deflate

/-! ## The limit -/

/-- What becomes of a member below every limit: its content is given out, or it is too long. -/
theorem expand_limit {src content : ByteArray} {limit : Nat} (h : expand limit src = .ok content)
    (limit' : Nat) :
    expand limit' src = if limit' < content.size then .error .tooLong else .ok content :=
  (firstMember_of_expand h).1.expand_eq limit'

/-- Content that is given out is within the limit. -/
theorem size_le_of_expand {src content : ByteArray} {limit : Nat}
    (h : expand limit src = .ok content) : content.size ≤ limit :=
  (firstMember_of_expand h).2

/-- What is used of bytes that were written for a content, whoever wrote them: they read back, and
they begin with the first byte of the format.  How well they are compressed is of no account. -/
structure Written (bytes content : ByteArray) : Prop where
  reads_back : expand content.size bytes = .ok content
  magic : 0 < bytes.size ∧ byteAt bytes 0 = 0x1f

/-- What is read as a content may have been written for it. -/
theorem written_of_expand {src content : ByteArray} {limit : Nat}
    (h : expand limit src = .ok content) : Written src content := by
  obtain ⟨start, next, hheader, -, -⟩ := (firstMember_of_expand h).1
  refine ⟨?_, Nat.lt_of_lt_of_le (by decide) hheader.size_ge, hheader.magic.1⟩
  rw [expand_limit h, if_neg (Nat.lt_irrefl _)]

/-! ## Header and trailer -/

/-- The bytes of a 32-bit number, low byte first. -/
def littleBytes (n : Nat) : List UInt8 :=
  [.ofNat n, .ofNat (n / 256), .ofNat (n / 65536), .ofNat (n / 16777216)]

theorem toBytes_pushLittle32 (out : ByteArray) (n : Nat) :
    toBytes (pushLittle32 out n) = toBytes out ++ littleBytes n := by
  simp only [pushLittle32, littleBytes, toBytes_push, List.append_assoc, List.cons_append,
    List.nil_append]

/-- The bytes of the header of every member that is written. -/
def headerBytes : List UInt8 := [0x1f, 0x8b, 8, 0, 0, 0, 0, 0, 0, 0xff]

theorem toBytes_member (content body : ByteArray) :
    toBytes (member content body) = headerBytes ++ (toBytes body ++
      (littleBytes (Crc32.checksum content).toNat ++ littleBytes (content.size % 4294967296))) := by
  have hheader : toBytes header = headerBytes := toBytes_ofBytes _
  simp only [member, toBytes_pushLittle32, toBytes_append, hheader, List.append_assoc]

/-- The header of a member that is written ends in front of the tenth byte. -/
theorem readHeader_eq {src : ByteArray} {rest : List UInt8}
    (hsrc : toBytes src = headerBytes ++ rest) : readHeader src = .ok 10 := by
  have hsize : src.size = 10 + rest.length := by
    rw [← length_toBytes, hsrc, List.length_append]
    rfl
  have hbyte : ∀ k, k < 10 → byteAt src k = headerBytes.getD k 0 := by
    intro k hk
    have hpart : toBytes src = [] ++ (headerBytes ++ rest) := hsrc
    have h := byteAt_part hpart hk
    rwa [List.length_nil, Nat.zero_add] at h
  have hmagic : byteAt src 0 = 0x1f ∧ byteAt src 1 = 0x8b ∧ byteAt src 2 = 8 :=
    ⟨hbyte 0 (by omega), hbyte 1 (by omega), hbyte 2 (by omega)⟩
  have hflags : (byteAt src 3).toNat = 0 := by rw [hbyte 3 (by omega)]; rfl
  unfold readHeader
  rw [if_neg (by omega), hflags]
  simp only [hmagic.1, hmagic.2.1, hmagic.2.2]
  rfl

theorem readLittle32_eq {src : ByteArray} {front rest : List UInt8} {n : Nat}
    (hsrc : toBytes src = front ++ (littleBytes n ++ rest)) (hn : n < 4294967296) :
    readLittle32 src front.length = n := by
  have hbyte : ∀ k, k < 4 → byteAt src (front.length + k) = (littleBytes n).getD k 0 :=
    fun k hk => byteAt_part hsrc hk
  have h0 : byteAt src front.length = .ofNat n := hbyte 0 (by omega)
  have h1 : byteAt src (front.length + 1) = .ofNat (n / 256) := hbyte 1 (by omega)
  have h2 : byteAt src (front.length + 2) = .ofNat (n / 65536) := hbyte 2 (by omega)
  have h3 : byteAt src (front.length + 2 + 1) = .ofNat (n / 16777216) := hbyte 3 (by omega)
  simp only [readLittle32, readLittle, h0, h1, h2, h3, UInt8.toNat_ofNat']
  omega

/-- The trailer of a member belongs to its content. -/
theorem checkTrailer_eq {src : ByteArray} {front : List UInt8} (content : ByteArray)
    (hsrc : toBytes src = front ++ (littleBytes (Crc32.checksum content).toNat ++
      littleBytes (content.size % 4294967296))) :
    checkTrailer src front.length content = .ok () := by
  have hsize : src.size = front.length + 8 := by
    rw [← length_toBytes, hsrc, List.length_append]
    rfl
  have hchecksum : readLittle32 src front.length = (Crc32.checksum content).toNat :=
    readLittle32_eq hsrc (UInt32.toNat_lt _)
  have hlength : readLittle32 src (front.length + 4) = content.size % 4294967296 := by
    have hsrc' : toBytes src = (front ++ littleBytes (Crc32.checksum content).toNat) ++
        (littleBytes (content.size % 4294967296) ++ []) := by
      rw [hsrc, List.append_nil, List.append_assoc]
    have hfront : (front ++ littleBytes (Crc32.checksum content).toNat).length =
        front.length + 4 := by
      rw [List.length_append]
      rfl
    rw [← hfront]
    exact readLittle32_eq hsrc' (Nat.mod_lt _ (by decide))
  unfold checkTrailer
  rw [if_neg (by omega), hchecksum, hlength]
  simp only [ne_eq, not_true, or_self, if_false]

/-! ## Members -/

/-- Stored content is written as one member. -/
theorem member_store (content : ByteArray) :
    Member .reader (member content (store content)) content := by
  have hsrc := toBytes_member content (store content)
  have hdata : inflate _ content.size headerBytes.length = _ :=
    inflate_store hsrc (Nat.le_refl _)
  have hsrc' : toBytes (member content (store content)) =
      (headerBytes ++ toBytes (store content)) ++ (littleBytes (Crc32.checksum content).toNat ++
        littleBytes (content.size % 4294967296)) := by
    rw [hsrc, List.append_assoc]
  have htrailer := checkTrailer_eq content hsrc'
  rw [List.length_append, length_toBytes] at htrailer
  refine ⟨_, _, readHeader_eq_ok_iff.mp (readHeader_eq hsrc), (expands_of_inflate hdata).1,
    checkTrailer_eq_ok_iff.mp htrailer, ?_⟩
  rw [← length_toBytes, hsrc', List.length_append, List.length_append, length_toBytes]
  rfl

/-- A member of stored content reads back. -/
theorem expand_member_store (content : ByteArray) {limit : Nat} (hlimit : content.size ≤ limit) :
    expand limit (member content (store content)) = .ok content := by
  rw [(member_store content).first.expand_eq, if_neg (Nat.not_lt.mpr hlimit)]

/-- **Every member that is written reads back**, and begins with the first byte of the format. -/
theorem compress_written (content : ByteArray) : Written (compress content) content := by
  unfold compress
  simp only
  split
  · rename_i h
    simp only [Bool.and_eq_true] at h
    exact written_of_expand (readsAs_iff.mp h.2)
  · exact written_of_expand (expand_member_store content (Nat.le_refl _))

end StatusRegistry.Gzip

import StatusRegistry.Bytes.Crc32
import StatusRegistry.Deflate.Block
import StatusRegistry.Deflate.Stored

/-!
# GZIP members

A member is a header, compressed data, and a trailer with the checksum and the length of the
content.

* `expand` reads the first member of a text of bytes and looks at nothing behind its trailer;
* the content is given out only after the trailer was checked, and never beyond the limit;
* `compress` writes a member whose header has no flags, no time and no optional field; the packed
  form of the content is taken if it is the shorter one and reads back, and else the stored form;
* `readsAs_iff` says when a member reads back.
-/

set_option autoImplicit false

namespace StatusRegistry.Gzip

open Bytes

/-- What can be wrong with a member. -/
inductive Fault where
  /-- There are no bytes at all. -/
  | empty
  /-- The header or the trailer ends early. -/
  | cutShort
  /-- Another format, another method of compression, or a reserved flag. -/
  | invalidHeader
  /-- A name or a comment beyond the greatest length. -/
  | fieldTooLong
  /-- A checksum or length that does not belong to what was read. -/
  | mismatch
  /-- The compressed data breaks a rule of its format. -/
  | corruptData
  /-- The compressed data ends early. -/
  | incompleteData
  /-- The content is longer than the reader allows. -/
  | tooLong
  deriving DecidableEq, Repr

/-! ## Header -/

/-- The flags of a header. -/
structure Flags where
  bits : Nat

namespace Flags

/-- The header has a checksum of its own. -/
def checksum (f : Flags) : Bool := f.bits.testBit 1

/-- The header has an extra field. -/
def extra (f : Flags) : Bool := f.bits.testBit 2

/-- The header has a file name. -/
def name (f : Flags) : Bool := f.bits.testBit 3

/-- The header has a comment. -/
def comment (f : Flags) : Bool := f.bits.testBit 4

/-- One of the three bits without a meaning is set. -/
def reserved (f : Flags) : Bool := f.bits / 32 != 0

end Flags

/-- The greatest number of bytes of a name or a comment. -/
def maxFieldLength : Nat := 65535

/-- Passes over a name or a comment in the last `left` bytes, of which `room` may still follow
in front of the zero byte that ends it: the position behind that byte. -/
def skipText (src : ByteArray) : Nat → Nat → Except Fault Nat
  | 0, _ => .error .cutShort
  | left + 1, room =>
    if byteAt src (src.size - (left + 1)) = 0 then .ok (src.size - left)
    else
      match room with
      | 0 => .error .fieldTooLong
      | room + 1 => skipText src left room

/-- Passes over a name or a comment if there is one. -/
def skipField (src : ByteArray) (present : Bool) (pos : Nat) : Except Fault Nat :=
  if present then skipText src (src.size - pos) maxFieldLength else .ok pos

/-- Passes over the extra field if there is one. -/
def skipExtra (src : ByteArray) (present : Bool) (pos : Nat) : Except Fault Nat :=
  if present then
    let next := pos + 2 + Deflate.readLittle src pos
    if src.size < pos + 2 ∨ src.size < next then .error .cutShort else .ok next
  else .ok pos

/-- Checks the checksum of the header up to a position, if it has one. -/
def checkHeader (src : ByteArray) (present : Bool) (pos : Nat) : Except Fault Nat :=
  if present then
    if src.size < pos + 2 then .error .cutShort
    else if Deflate.readLittle src pos ≠ (Crc32.checksum (src.extract 0 pos)).toNat % 65536 then
      .error .mismatch
    else .ok (pos + 2)
  else .ok pos

/-- Reads the header: the position of the compressed data. -/
def readHeader (src : ByteArray) : Except Fault Nat := do
  if src.size < 10 then throw .cutShort
  let flags : Flags := ⟨(byteAt src 3).toNat⟩
  if byteAt src 0 ≠ 0x1f ∨ byteAt src 1 ≠ 0x8b ∨ byteAt src 2 ≠ 8 ∨ flags.reserved then
    throw .invalidHeader
  let pos ← skipExtra src flags.extra 10
  let pos ← skipField src flags.name pos
  let pos ← skipField src flags.comment pos
  checkHeader src flags.checksum pos

/-! ## Reading a member -/

/-- The 32-bit number at a position, low byte first. -/
def readLittle32 (src : ByteArray) (pos : Nat) : Nat :=
  Deflate.readLittle src pos + 65536 * Deflate.readLittle src (pos + 2)

/-- What a fault of the compressed data is for the member. -/
def Fault.ofData : Deflate.Fault → Fault
  | .corrupt => corruptData
  | .incomplete => incompleteData
  | .tooLong => tooLong

/-- Checks the trailer against the content. -/
def checkTrailer (src : ByteArray) (pos : Nat) (content : ByteArray) : Except Fault Unit :=
  if src.size < pos + 8 then .error .cutShort
  else if readLittle32 src pos ≠ (Crc32.checksum content).toNat ∨
      readLittle32 src (pos + 4) ≠ content.size % 4294967296 then .error .mismatch
  else .ok ()

/-- The content of the first member, which is at most `limit` bytes long. -/
def expand (limit : Nat) (src : ByteArray) : Except Fault ByteArray :=
  if src.size = 0 then .error .empty
  else
    match readHeader src with
    | .error e => .error e
    | .ok start =>
      match Deflate.inflate src limit start with
      | .error e => .error (.ofData e)
      | .ok (pos, content) =>
        match checkTrailer src pos content with
        | .error e => .error e
        | .ok _ => .ok content

/-! ## Writing a member -/

/-- The header of the members written here: nothing optional, no time, an unknown system. -/
def header : ByteArray := ofBytes [0x1f, 0x8b, 8, 0, 0, 0, 0, 0, 0, 0xff]

/-- Appends a 32-bit number, low byte first. -/
def pushLittle32 (out : ByteArray) (n : Nat) : ByteArray :=
  (((out.push (.ofNat n)).push (.ofNat (n / 256))).push (.ofNat (n / 65536))).push
    (.ofNat (n / 16777216))

/-- The member with given content and a given compressed form of it. -/
def member (content body : ByteArray) : ByteArray :=
  pushLittle32
    (pushLittle32 (header ++ body) (Crc32.checksum content).toNat)
    (content.size % 4294967296)

/-- Whether a member is read as the given content. -/
def readsAs (content src : ByteArray) : Bool :=
  match expand content.size src with
  | .ok found => same found content
  | .error _ => false

theorem readsAs_iff {content src : ByteArray} :
    readsAs content src = true ↔ expand content.size src = .ok content := by
  unfold readsAs
  split
  · rename_i found h
    rw [h, same_iff]
    simp
  · rename_i e h
    rw [h]
    simp

/-- A member with a given content. -/
def compress (content : ByteArray) : ByteArray :=
  let packed := Deflate.pack content
  let stored := Deflate.store content
  let short := member content packed
  if packed.size < stored.size && readsAs content short then short else member content stored

end StatusRegistry.Gzip

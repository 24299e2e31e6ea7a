import StatusRegistry.Bytes.Basic
import StatusRegistry.Text.Numeral
import StatusRegistry.Width

/-!
# Slots of a bitstring

A bitstring is a sequence of bytes cut into slots of one width.  Slot 0 begins at the highest bit
of the first byte, and a slot holds its code with the highest bit first.  As a width divides
eight, each slot lies within one byte.

* `readSlot` and `writeSlot` refuse a slot past the end, and `writeSlot` a code that does not fit;
* `slotOf_lt`: what a slot of a byte holds is a code of its width.
-/

set_option autoImplicit false

namespace StatusRegistry

/-- Why a bitstring cannot be written as text, read from text, or asked for a slot. -/
inductive CodecError where
  /-- The text is not written in the alphabet. -/
  | base64 (reason : String)
  /-- The bytes are no member of the compressed format. -/
  | decompress (reason : String)
  /-- The bytes could not be compressed. -/
  | compress (reason : String)
  /-- The content is longer than a reader accepts. -/
  | tooLarge (limit : Nat)
  /-- The slot lies past the end. -/
  | indexOutOfRange (index capacity : Nat)
  /-- The code does not fit the slot. -/
  | valueTooWide (value bits : Nat)
  deriving DecidableEq, Repr

/-- The wording of a codec error. -/
def CodecError.message : CodecError → String
  | base64 reason => "encodedList is not valid base64url: " ++ reason
  | decompress reason => "encodedList is not a valid GZIP stream: " ++ reason
  | compress reason => "bitstring compression failed: " ++ reason
  | tooLarge limit => "decoded bitstring exceeds " ++ Text.decimalText limit ++ " bytes"
  | indexOutOfRange index capacity =>
    "status index " ++ Text.decimalText index ++ " is out of range for a bitstring of " ++
      Text.decimalText capacity ++ " slots"
  | valueTooWide value bits =>
    "status value " ++ Text.decimalText value ++ " does not fit in " ++ Text.decimalText bits ++
      " bits"

namespace Bitstring

open Bytes

/-- The greatest number of bits that a buffer is measured in. -/
def maxBits : Nat := 18446744073709551615

/-- The number of bytes that hold a number of slots; bits beyond `maxBits` are not counted. -/
def bufferLength (capacity : UInt64) (width : SlotWidth) : Nat :=
  (min (capacity.toNat * width.bits) maxBits + 7) / 8

/-- The buffer in which all slots hold 0. -/
def zeroed (capacity : UInt64) (width : SlotWidth) : ByteArray :=
  zeros (bufferLength capacity width)

/-- The number of whole slots in a number of bytes. -/
def slotCount (size : Nat) (width : SlotWidth) : Nat := 8 * size / width.bits

/-! ## Slots of a byte -/

/-- The number of slots in a byte. -/
def perByte (width : SlotWidth) : Nat := 8 / width.bits

/-- The value of the lowest bit of a slot of a byte; slot 0 is the highest. -/
def unit (width : SlotWidth) (place : Nat) : Nat :=
  Nat.pow 2 (width.bits * (perByte width - 1 - place))

/-- The code in a slot of a byte. -/
def slotOf (width : SlotWidth) (place : Nat) (byte : Nat) : Nat :=
  byte / unit width place % width.codeCount

/-- The byte with another code in a slot. -/
def withSlot (width : SlotWidth) (place : Nat) (code byte : Nat) : Nat :=
  byte - slotOf width place byte * unit width place + code * unit width place

/-! ## Slots of a buffer -/

/-- Refuses a slot past the end. -/
def checkSlot (data : ByteArray) (index : Nat) (width : SlotWidth) : Except CodecError Unit :=
  let capacity := slotCount data.size width
  if index < capacity then .ok () else .error (.indexOutOfRange index capacity)

/-- The code in a slot. -/
def readSlot (data : ByteArray) (index : Nat) (width : SlotWidth) : Except CodecError UInt8 := do
  checkSlot data index width
  let byte := (byteAt data (index / perByte width)).toNat
  return .ofNat (slotOf width (index % perByte width) byte)

/-- The buffer with another code in a slot; whether the code fits is asked first. -/
def writeSlot (data : ByteArray) (index : Nat) (width : SlotWidth) (code : UInt8) :
    Except CodecError ByteArray :=
  if width.maxCode < code.toNat then .error (.valueTooWide code.toNat width.bits)
  else
    match checkSlot data index width with
    | .error e => .error e
    | .ok _ =>
      let i := index / perByte width
      let byte := withSlot width (index % perByte width) code.toNat (byteAt data i).toNat
      .ok (data.set! i (.ofNat byte))

/-! ## Small facts -/

theorem slotOf_lt (width : SlotWidth) (place byte : Nat) :
    slotOf width place byte < width.codeCount :=
  Nat.mod_lt _ (Nat.two_pow_pos _)

end Bitstring

end StatusRegistry

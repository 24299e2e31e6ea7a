import StatusRegistry.Bytes.Basic

/-!
# Stored content

Content as stored blocks: each has a header of five bytes, the last two of which are the length
once more with every bit turned over, and at most 65535 bytes of content as they are.
-/

set_option autoImplicit false

namespace StatusRegistry.Deflate

/-- The greatest number of bytes of a stored block. -/
def maxStored : Nat := 65535

/-- The header of a stored block. -/
def storedHeader (last : Bool) (length : Nat) : ByteArray :=
  Bytes.ofBytes [if last then 1 else 0, .ofNat length, .ofNat (length / 256),
    .ofNat (maxStored - length), .ofNat ((maxStored - length) / 256)]

/-- Appends the last `left` bytes of content as full blocks, so many at most, and a last block. -/
def storedFrom (data : ByteArray) : Nat → Nat → ByteArray → ByteArray
  | 0, left, out => out ++ storedHeader true left ++ data.extract (data.size - left) data.size
  | blocks + 1, left, out =>
    let start := data.size - left
    storedFrom data blocks (left - maxStored)
      (out ++ storedHeader false maxStored ++ data.extract start (start + maxStored))

/-- Content as stored blocks, every one but the last one full. -/
def store (data : ByteArray) : ByteArray :=
  storedFrom data ((data.size - 1) / maxStored) data.size ByteArray.empty

end StatusRegistry.Deflate

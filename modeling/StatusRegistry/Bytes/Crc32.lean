import StatusRegistry.Bytes.Basic

/-!
# CRC-32 checksums

The cyclic redundancy check of GZIP members: the polynomial 0xEDB88320 in reflected form, with
all bits of the start value and of the result inverted.

* `checksum_eq` says that the checksum is a fold over the bytes.
-/

set_option autoImplicit false

namespace StatusRegistry.Crc32

/-- One division step by the polynomial. -/
def divide (r : UInt32) : UInt32 :=
  if r &&& 1 = 1 then (0xEDB88320 : UInt32) ^^^ (r >>> 1) else r >>> 1

/-- The remainder of one byte. -/
def remainder (b : Nat) : UInt32 :=
  divide (divide (divide (divide (divide (divide (divide (divide (.ofNat b))))))))

/-- The remainders of all bytes. -/
def table : Array UInt32 := Array.ofFn fun i : Fin 256 => remainder i.val

/-- The register after one more byte. -/
def step (r : UInt32) (b : UInt8) : UInt32 :=
  let i := ((r ^^^ b.toUInt32) &&& 0xff).toNat
  (if h : i < table.size then table[i] else 0) ^^^ (r >>> 8)

/-- The checksum of the bytes of an array. -/
def checksum (data : ByteArray) : UInt32 := Bytes.fold step 0xFFFFFFFF data ^^^ 0xFFFFFFFF

theorem checksum_eq (data : ByteArray) :
    checksum data = (Bytes.toBytes data).foldl step 0xFFFFFFFF ^^^ 0xFFFFFFFF := by
  rw [checksum, Bytes.fold_eq]

end StatusRegistry.Crc32

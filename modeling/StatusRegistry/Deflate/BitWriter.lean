import StatusRegistry.Bytes.Basic

/-!
# Writing bits

Bits are collected into bytes, the first one in the lowest place: the eighth bit of a byte completes
it, and any other leaves the bytes as they are.
-/

set_option autoImplicit false

namespace StatusRegistry.Deflate

/-- Bits written so far: whole bytes, the value of the bits behind them, and the value that the
next bit will have in their byte, from 1 to 128. -/
structure BitWriter where
  bytes : ByteArray
  value : Nat
  weight : Nat

namespace BitWriter

/-- Nothing written yet. -/
def start : BitWriter := ⟨ByteArray.empty, 0, 1⟩

/-- Writes one bit. -/
def push (w : BitWriter) (b : Bool) : BitWriter :=
  let value := if b then w.value + w.weight else w.value
  if w.weight = 128 then ⟨w.bytes.push (.ofNat value), 0, 1⟩
  else ⟨w.bytes, value, 2 * w.weight⟩

/-- Writes bits in order. -/
def pushBits (w : BitWriter) (bits : List Bool) : BitWriter := bits.foldl push w

/-- Writes the low bits of a number, the lowest first. -/
def pushLow (w : BitWriter) : Nat → Nat → BitWriter
  | 0, _ => w
  | count + 1, n => pushLow (w.push (n % 2 == 1)) count (n / 2)

/-- The bytes written, the last one filled up with zero bits. -/
def finish (w : BitWriter) : ByteArray :=
  if w.weight = 1 then w.bytes else w.bytes.push (.ofNat w.value)

end BitWriter

end StatusRegistry.Deflate

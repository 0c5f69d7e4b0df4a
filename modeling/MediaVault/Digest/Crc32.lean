import MediaVault.Digest.Md5

/-!
# The CRC-32 checksum

The reflected checksum with polynomial `0xEDB88320` that guards the chunks of a
PNG image.
-/

namespace MediaVault.Digest

/-- One bit of the division by the polynomial. -/
def crcBit (r : UInt32) : UInt32 :=
  if r &&& 1 == 1 then (0xEDB88320 : UInt32) ^^^ (r >>> 1) else r >>> 1

/-- The remainders of all single bytes. -/
def crcTable : Vector UInt32 256 :=
  Vector.ofFn fun i => (List.range 8).foldl (fun r _ => crcBit r) (UInt32.ofNat i.val)

/-- Divide one more byte. -/
@[inline] def crcByte (r : UInt32) (b : UInt8) : UInt32 :=
  let i := (r ^^^ b.toUInt32) &&& 0xFF
  have : i.toNat < 256 := by
    simp only [i, UInt32.toNat_and]
    exact Nat.lt_of_le_of_lt Nat.and_le_right (by decide)
  crcTable[i.toNat] ^^^ (r >>> 8)

/-- Divide `count` bytes, starting at `offset`. -/
def crcRun (bytes : ByteArray) : Nat → Nat → UInt32 → UInt32
  | 0, _, r => r
  | count + 1, offset, r => crcRun bytes count (offset + 1) (crcByte r (byteAt bytes offset))

/-- The checksum of `count` bytes, starting at `offset`. -/
def crc32 (bytes : ByteArray) (offset count : Nat) : UInt32 :=
  crcRun bytes count offset 0xFFFFFFFF ^^^ 0xFFFFFFFF

end MediaVault.Digest

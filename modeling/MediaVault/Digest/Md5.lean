import MediaVault.Text.Hex

/-!
# The MD5 digest

The message is padded to whole blocks of 64 bytes; every block is mixed into
four words by 64 steps.  Entity tags of stored objects and the signatures of
delivery URLs are MD5 digests.
-/

namespace MediaVault.Digest

/-- The byte at position `i`; zero past the end. -/
@[inline] def byteAt (bytes : ByteArray) (i : Nat) : UInt8 :=
  if h : i < bytes.size then bytes[i] else 0

namespace Md5

/-- The four chaining words. -/
structure State where
  a : UInt32
  b : UInt32
  c : UInt32
  d : UInt32
deriving Repr, DecidableEq

/-- The chaining words before the first block. -/
def State.start : State := ⟨0x67452301, 0xEFCDAB89, 0x98BADCFE, 0x10325476⟩

/-- The additive constants of the 64 steps. -/
def constants : Vector UInt32 64 := #v[
  0xd76aa478, 0xe8c7b756, 0x242070db, 0xc1bdceee, 0xf57c0faf, 0x4787c62a, 0xa8304613, 0xfd469501,
  0x698098d8, 0x8b44f7af, 0xffff5bb1, 0x895cd7be, 0x6b901122, 0xfd987193, 0xa679438e, 0x49b40821,
  0xf61e2562, 0xc040b340, 0x265e5a51, 0xe9b6c7aa, 0xd62f105d, 0x02441453, 0xd8a1e681, 0xe7d3fbc8,
  0x21e1cde6, 0xc33707d6, 0xf4d50d87, 0x455a14ed, 0xa9e3e905, 0xfcefa3f8, 0x676f02d9, 0x8d2a4c8a,
  0xfffa3942, 0x8771f681, 0x6d9d6122, 0xfde5380c, 0xa4beea44, 0x4bdecfa9, 0xf6bb4b60, 0xbebfbc70,
  0x289b7ec6, 0xeaa127fa, 0xd4ef3085, 0x04881d05, 0xd9d4d039, 0xe6db99e5, 0x1fa27cf8, 0xc4ac5665,
  0xf4292244, 0x432aff97, 0xab9423a7, 0xfc93a039, 0x655b59c3, 0x8f0ccc92, 0xffeff47d, 0x85845dd1,
  0x6fa87e4f, 0xfe2ce6e0, 0xa3014314, 0x4e0811a1, 0xf7537e82, 0xbd3af235, 0x2ad7d2bb, 0xeb86d391]

/-- By how many bits step `i` rotates. -/
def rotation (i : Nat) : UInt32 :=
  match i / 16, i % 4 with
  | 0, 0 => 7 | 0, 1 => 12 | 0, 2 => 17 | 0, _ => 22
  | 1, 0 => 5 | 1, 1 => 9 | 1, 2 => 14 | 1, _ => 20
  | 2, 0 => 4 | 2, 1 => 11 | 2, 2 => 16 | 2, _ => 23
  | _, 0 => 6 | _, 1 => 10 | _, 2 => 15 | _, _ => 21

/-- Which word of the block step `i` reads. -/
def wordIndex (i : Nat) : Nat :=
  match i / 16 with
  | 0 => i
  | 1 => (5 * i + 1) % 16
  | 2 => (3 * i + 5) % 16
  | _ => (7 * i) % 16

/-- The mixing function of step `i`. -/
@[inline] def mix (i : Nat) (b c d : UInt32) : UInt32 :=
  if i < 16 then (b &&& c) ||| (~~~b &&& d)
  else if i < 32 then (d &&& b) ||| (~~~d &&& c)
  else if i < 48 then b ^^^ c ^^^ d
  else c ^^^ (b ||| ~~~d)

/-- Rotation to the left. -/
@[inline] def rotateLeft (x n : UInt32) : UInt32 :=
  (x <<< n) ||| (x >>> (32 - n))

/-- Four bytes, the lowest first. -/
@[inline] def wordAt (bytes : ByteArray) (i : Nat) : UInt32 :=
  (byteAt bytes i).toUInt32 ||| ((byteAt bytes (i + 1)).toUInt32 <<< 8) |||
    ((byteAt bytes (i + 2)).toUInt32 <<< 16) ||| ((byteAt bytes (i + 3)).toUInt32 <<< 24)

/-- The last `left` steps on the block that starts at `offset`. -/
def steps (message : ByteArray) (offset : Nat) :
    (left : Nat) → left ≤ 64 → UInt32 → UInt32 → UInt32 → UInt32 → State
  | 0, _, a, b, c, d => ⟨a, b, c, d⟩
  | left + 1, h, a, b, c, d =>
    let i := 63 - left
    have : i < 64 := by omega
    let sum := a + mix i b c d + constants[i] + wordAt message (offset + 4 * wordIndex i)
    steps message offset left (Nat.le_of_succ_le h) d (b + rotateLeft sum (rotation i)) b c

/-- Mix the block that starts at `offset` into the chaining words. -/
def absorb (message : ByteArray) (offset : Nat) (s : State) : State :=
  let t := steps message offset 64 (Nat.le_refl 64) s.a s.b s.c s.d
  ⟨s.a + t.a, s.b + t.b, s.c + t.c, s.d + t.d⟩

/-- Mix `count` blocks, starting at `offset`. -/
def absorbAll (message : ByteArray) : Nat → Nat → State → State
  | 0, _, s => s
  | count + 1, offset, s => absorbAll message count (offset + 64) (absorb message offset s)

/-- The `count` low bytes of `n`, the lowest first. -/
def littleEndian : Nat → Nat → List UInt8
  | 0, _ => []
  | count + 1, n => UInt8.ofNat (n % 256) :: littleEndian count (n / 256)

/-- The message with one set bit, zeros and its length in bits appended, which
fills whole blocks. -/
def pad (message : ByteArray) : ByteArray :=
  let zeros := (119 - message.size % 64) % 64
  message ++ (0x80 :: List.replicate zeros 0 ++
    littleEndian 8 (8 * message.size)).toByteArray

end Md5

/-- The MD5 digest: 16 bytes. -/
def md5 (message : ByteArray) : ByteArray :=
  let padded := Md5.pad message
  let s := Md5.absorbAll padded (padded.size / 64) 0 Md5.State.start
  ([s.a, s.b, s.c, s.d].flatMap fun word => Md5.littleEndian 4 word.toNat).toByteArray

/-- The MD5 digest in hexadecimal. -/
def md5Hex (message : ByteArray) : String :=
  Text.hex (md5 message)

end MediaVault.Digest

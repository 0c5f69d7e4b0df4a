import MediaVault.Digest.Md5

/-!
# The SHA-256 digest and its keyed form

Requests to a remote service are signed with SHA-256 under a key (HMAC).
Words are read with the highest byte first.
-/

namespace MediaVault.Digest

namespace Sha256

/-- The additive constants of the 64 steps. -/
def constants : Vector UInt32 64 := #v[
  0x428a2f98, 0x71374491, 0xb5c0fbcf, 0xe9b5dba5, 0x3956c25b, 0x59f111f1, 0x923f82a4, 0xab1c5ed5,
  0xd807aa98, 0x12835b01, 0x243185be, 0x550c7dc3, 0x72be5d74, 0x80deb1fe, 0x9bdc06a7, 0xc19bf174,
  0xe49b69c1, 0xefbe4786, 0x0fc19dc6, 0x240ca1cc, 0x2de92c6f, 0x4a7484aa, 0x5cb0a9dc, 0x76f988da,
  0x983e5152, 0xa831c66d, 0xb00327c8, 0xbf597fc7, 0xc6e00bf3, 0xd5a79147, 0x06ca6351, 0x14292967,
  0x27b70a85, 0x2e1b2138, 0x4d2c6dfc, 0x53380d13, 0x650a7354, 0x766a0abb, 0x81c2c92e, 0x92722c85,
  0xa2bfe8a1, 0xa81a664b, 0xc24b8b70, 0xc76c51a3, 0xd192e819, 0xd6990624, 0xf40e3585, 0x106aa070,
  0x19a4c116, 0x1e376c08, 0x2748774c, 0x34b0bcb5, 0x391c0cb3, 0x4ed8aa4a, 0x5b9cca4f, 0x682e6ff3,
  0x748f82ee, 0x78a5636f, 0x84c87814, 0x8cc70208, 0x90befffa, 0xa4506ceb, 0xbef9a3f7, 0xc67178f2]

/-- The eight chaining words. -/
structure State where
  a : UInt32
  b : UInt32
  c : UInt32
  d : UInt32
  e : UInt32
  f : UInt32
  g : UInt32
  h : UInt32
deriving Repr, DecidableEq

/-- The chaining words before the first block. -/
def State.start : State :=
  ⟨0x6a09e667, 0xbb67ae85, 0x3c6ef372, 0xa54ff53a, 0x510e527f, 0x9b05688c, 0x1f83d9ab, 0x5be0cd19⟩

/-- The chaining words in order. -/
def State.words (s : State) : List UInt32 :=
  [s.a, s.b, s.c, s.d, s.e, s.f, s.g, s.h]

/-- Rotation to the right. -/
def rotateRight (x n : UInt32) : UInt32 :=
  (x >>> n) ||| (x <<< (32 - n))

/-- Four bytes, the highest first. -/
def wordAt (bytes : ByteArray) (i : Nat) : UInt32 :=
  ((byteAt bytes i).toUInt32 <<< 24) ||| ((byteAt bytes (i + 1)).toUInt32 <<< 16) |||
    ((byteAt bytes (i + 2)).toUInt32 <<< 8) ||| (byteAt bytes (i + 3)).toUInt32

/-- Extend the words of a block, last first, by `left` more. -/
def extend : (left : Nat) → List UInt32 → List UInt32
  | 0, words => words
  | left + 1, words =>
    let nth (i : Nat) : UInt32 := words.getD i 0
    let x := nth 14
    let y := nth 1
    let s0 := rotateRight x 7 ^^^ rotateRight x 18 ^^^ (x >>> 3)
    let s1 := rotateRight y 17 ^^^ rotateRight y 19 ^^^ (y >>> 10)
    extend left ((nth 15 + s0 + nth 6 + s1) :: words)

/-- One step with its word and constant. -/
def step (s : State) (word constant : UInt32) : State :=
  let s1 := rotateRight s.e 6 ^^^ rotateRight s.e 11 ^^^ rotateRight s.e 25
  let choice := (s.e &&& s.f) ^^^ (~~~s.e &&& s.g)
  let t1 := s.h + s1 + choice + constant + word
  let s0 := rotateRight s.a 2 ^^^ rotateRight s.a 13 ^^^ rotateRight s.a 22
  let majority := (s.a &&& s.b) ^^^ (s.a &&& s.c) ^^^ (s.b &&& s.c)
  ⟨t1 + s0 + majority, s.a, s.b, s.c, s.d + t1, s.e, s.f, s.g⟩

/-- Mix the block that starts at `offset` into the chaining words. -/
def absorb (message : ByteArray) (offset : Nat) (s : State) : State :=
  let block := (List.range 16).map fun i => wordAt message (offset + 4 * i)
  let words := (extend 48 block.reverse).reverse
  let t := (words.zip constants.toList).foldl (fun t p => step t p.1 p.2) s
  ⟨s.a + t.a, s.b + t.b, s.c + t.c, s.d + t.d, s.e + t.e, s.f + t.f, s.g + t.g, s.h + t.h⟩

/-- Mix `count` blocks, starting at `offset`. -/
def absorbAll (message : ByteArray) : Nat → Nat → State → State
  | 0, _, s => s
  | count + 1, offset, s => absorbAll message count (offset + 64) (absorb message offset s)

/-- The message with one set bit, zeros and its length in bits appended, which
fills whole blocks. -/
def pad (message : ByteArray) : ByteArray :=
  let zeros := (119 - message.size % 64) % 64
  message ++ (0x80 :: List.replicate zeros 0 ++
    (Md5.littleEndian 8 (8 * message.size)).reverse).toByteArray

end Sha256

/-- The SHA-256 digest: 32 bytes. -/
def sha256 (message : ByteArray) : ByteArray :=
  let padded := Sha256.pad message
  let s := Sha256.absorbAll padded (padded.size / 64) 0 Sha256.State.start
  (s.words.flatMap fun word => (Md5.littleEndian 4 word.toNat).reverse).toByteArray

/-- A key of 64 bytes: a longer one is digested, a shorter one filled up. -/
def hmacKey (key : ByteArray) : List UInt8 :=
  let short := (if 64 < key.size then sha256 key else key).data.toList
  short ++ List.replicate (64 - short.length) 0

/-- The digest of a message under a key. -/
def hmacSha256 (key message : ByteArray) : ByteArray :=
  let k := hmacKey key
  let inner := sha256 ((k.map (· ^^^ 0x36)).toByteArray ++ message)
  sha256 ((k.map (· ^^^ 0x5C)).toByteArray ++ inner)

end MediaVault.Digest

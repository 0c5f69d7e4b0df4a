import MediaVault.Digest.Md5

/-!
# Bits and prefix codes

Compressed images are read bit by bit, the lowest bit of each byte first.  A
prefix code is given by the lengths of its code words alone: shorter words come
first, words of one length follow the order of their symbols.
-/

namespace MediaVault.Bits

open MediaVault.Digest (byteAt)

/-- The bit at a position. -/
@[inline] def bitAt (bytes : ByteArray) (place : Nat) : Nat :=
  (byteAt bytes (place / 8)).toNat >>> (place % 8) % 2

/-- The number made of `count` bits, the lowest first. -/
def number (bytes : ByteArray) (place : Nat) : (count : Nat) → Nat
  | 0 => 0
  | count + 1 => bitAt bytes place + 2 * number bytes (place + 1) count

/-- A number of `count` bits and the place after it. -/
def read? (bytes : ByteArray) (place count : Nat) : Option (Nat × Nat) :=
  if place + count ≤ 8 * bytes.size then some (number bytes place count, place + count) else none

/-- The place of the next whole byte. -/
def byteBoundary (place : Nat) : Nat :=
  (place + 7) / 8 * 8

/-- A prefix code. -/
inductive PrefixCode where
  /-- The only symbol; its code word is empty. -/
  | constant (symbol : Nat)
  /-- How many words there are of each length, from 1 on, and the symbols in the
  order of their words. -/
  | words (counts : List Nat) (symbols : Array Nat)
deriving Repr, Inhabited

namespace PrefixCode

/-- Code words may have up to 15 bits. -/
def maxLength : Nat := 15

/-- The words that are left at the greatest length, unless more are used than
there are. -/
def slack? (counts : List Nat) : Option Nat :=
  counts.foldl (fun left count => do
    let left ← left
    if count ≤ 2 * left then pure (2 * left - count) else none) (some 1)

/-- The symbols with a word of the given length. -/
def symbolsOf (lengths : List Nat) (length : Nat) : List Nat :=
  (lengths.zipIdx.filter fun p => p.1 == length).map (·.2)

/-- How many words there are of each length from 1 to 15. -/
def countsOf (lengths : List Nat) : List Nat :=
  (List.range' 1 maxLength).map fun length => lengths.count length

/-- The code with these lengths; a symbol of length 0 has no word. -/
def ofLengths (lengths : List Nat) : PrefixCode :=
  .words (countsOf lengths)
    ((List.range' 1 maxLength).flatMap (symbolsOf lengths)).toArray

/-- Follow a word bit by bit.  `first` is the first word of the current length,
`index` the rank of its symbol. -/
@[specialize] def walk (bit : Nat → Option Nat) (symbols : Array Nat) :
    List Nat → (word first index place : Nat) → Option (Nat × Nat)
  | [], _, _, _, _ => none
  | count :: counts, word, first, index, place =>
    match bit place with
    | none => none
    | some b =>
      if word + b < first + count then
        (symbols[index + (word + b - first)]?).map fun symbol => (symbol, place + 1)
      else
        walk bit symbols counts (2 * (word + b)) (2 * (first + count)) (index + count) (place + 1)

/-- The next symbol and the place after its word, where `bit` gives the bit at
a place. -/
@[specialize] def nextBy? (bit : Nat → Option Nat) (code : PrefixCode) (place : Nat) :
    Option (Nat × Nat) :=
  match code with
  | constant symbol => some (symbol, place)
  | words counts symbols => walk bit symbols counts 0 0 0 place

/-- The next symbol and the place after its word. -/
def next? (code : PrefixCode) (bytes : ByteArray) (place : Nat) : Option (Nat × Nat) :=
  nextBy? (fun place => if place < 8 * bytes.size then some (bitAt bytes place) else none) code
    place

end PrefixCode

end MediaVault.Bits

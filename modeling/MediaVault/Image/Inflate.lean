import MediaVault.Image.Bits

/-!
# Reading compressed data

Compressed data is a sequence of blocks: stored bytes, or symbols of two prefix
codes.  A symbol is a byte, the end of the block, or a length that is followed
by a distance and repeats earlier output.  Every loop takes at least one bit
per round, so the number of bits bounds it.
-/

namespace MediaVault.Inflate

open Bits

/-- Shortest length of each length symbol, with the extra bits that follow. -/
def lengthTable : Array (Nat × Nat) := #[
  (3, 0), (4, 0), (5, 0), (6, 0), (7, 0), (8, 0), (9, 0), (10, 0), (11, 1), (13, 1), (15, 1),
  (17, 1), (19, 2), (23, 2), (27, 2), (31, 2), (35, 3), (43, 3), (51, 3), (59, 3), (67, 4),
  (83, 4), (99, 4), (115, 4), (131, 5), (163, 5), (195, 5), (227, 5), (258, 0)]

/-- Shortest distance of each distance symbol, with the extra bits that
follow. -/
def distanceTable : Array (Nat × Nat) := #[
  (1, 0), (2, 0), (3, 0), (4, 0), (5, 1), (7, 1), (9, 2), (13, 2), (17, 3), (25, 3), (33, 4),
  (49, 4), (65, 5), (97, 5), (129, 6), (193, 6), (257, 7), (385, 7), (513, 8), (769, 8),
  (1025, 9), (1537, 9), (2049, 10), (3073, 10), (4097, 11), (6145, 11), (8193, 12),
  (12289, 12), (16385, 13), (24577, 13)]

/-- The symbol that ends a block. -/
def endOfBlock : Nat := 256

/-- Repeat `length` bytes from `distance` bytes back. -/
def repeatBack (out : ByteArray) (distance : Nat) : (length : Nat) → ByteArray
  | 0 => out
  | length + 1 =>
    repeatBack (out.push (Digest.byteAt out (out.size - distance))) distance length

/-- A value from a table: its base plus the number in its extra bits. -/
def extended? (table : Array (Nat × Nat)) (bytes : ByteArray) (symbol place : Nat) :
    Option (Nat × Nat) := do
  let (base, extra) ← table[symbol]?
  let (more, place) ← read? bytes place extra
  pure (base + more, place)

/-- The symbols of a block. -/
def symbols (bytes : ByteArray) (literals distances : PrefixCode) :
    (fuel : Nat) → (place : Nat) → ByteArray → Option (Nat × ByteArray)
  | 0, _, _ => none
  | fuel + 1, place, out =>
    match literals.next? bytes place with
    | none => none
    | some (symbol, place) =>
      if symbol < endOfBlock then
        symbols bytes literals distances fuel place (out.push (UInt8.ofNat symbol))
      else if symbol = endOfBlock then some (place, out)
      else
        match extended? lengthTable bytes (symbol - 257) place with
        | none => none
        | some (length, place) =>
          match distances.next? bytes place with
          | none => none
          | some (symbol, place) =>
            match extended? distanceTable bytes symbol place with
            | none => none
            | some (distance, place) =>
              if out.size < distance then none
              else symbols bytes literals distances fuel place (repeatBack out distance length)

/-- A stored block: its length, the same inverted, and its bytes. -/
def stored (bytes : ByteArray) (place : Nat) (out : ByteArray) : Option (Nat × ByteArray) := do
  let start := byteBoundary place
  let (length, place) ← read? bytes start 16
  let (inverted, place) ← read? bytes place 16
  let first := place / 8
  if length + inverted ≠ 65535 ∨ bytes.size < first + length then none
  else pure (8 * (first + length), out ++ bytes.extract first (first + length))

/-- The code for literals and lengths when none is given. -/
def fixedLiterals : PrefixCode :=
  .ofLengths (List.replicate 144 8 ++ List.replicate 112 9 ++ List.replicate 24 7 ++
    List.replicate 8 8)

/-- The code for distances when none is given. -/
def fixedDistances : PrefixCode :=
  .ofLengths (List.replicate 30 5)

/-- In which order the lengths of the code for lengths are given. -/
def lengthOrder : List Nat :=
  [16, 17, 18, 0, 8, 7, 9, 6, 10, 5, 11, 4, 12, 3, 13, 2, 14, 1, 15]

/-- `count` numbers of three bits. -/
def shortLengths (bytes : ByteArray) : (count : Nat) → (place : Nat) → Option (List Nat × Nat)
  | 0, place => some ([], place)
  | count + 1, place => do
    let (length, place) ← read? bytes place 3
    let (lengths, place) ← shortLengths bytes count place
    pure (length :: lengths, place)

/-- The lengths of a code that uses no more words than there are.  Some words
may be left over only when no word is longer than one bit. -/
def checkedCode? (lengths : List Nat) : Option PrefixCode :=
  match PrefixCode.slack? (PrefixCode.countsOf lengths) with
  | none => none
  | some left =>
    if left = 0 ∨ lengths.all (· ≤ 1) then some (PrefixCode.ofLengths lengths) else none

/-- Read lengths until `wanted` of them are there; they are collected last
first. -/
def codeLengths (bytes : ByteArray) (code : PrefixCode) (wanted : Nat) :
    (fuel : Nat) → (place : Nat) → List Nat → (count : Nat) → Option (List Nat × Nat)
  | 0, _, _, _ => none
  | fuel + 1, place, found, count =>
    if wanted < count then none
    else if count = wanted then some (found.reverse, place)
    else
      match code.next? bytes place with
      | none => none
      | some (symbol, place) =>
        if symbol < 16 then codeLengths bytes code wanted fuel place (symbol :: found) (count + 1)
        else
          let run := if symbol = 16 then (2, 3) else if symbol = 17 then (3, 3) else (7, 11)
          match read? bytes place run.1, symbol, found.head? with
          | none, _, _ => none
          | _, 16, none => none
          | some (more, place), symbol, last =>
            let length := if symbol = 16 then last.getD 0 else 0
            codeLengths bytes code wanted fuel place
              (List.replicate (run.2 + more) length ++ found) (count + run.2 + more)

/-- The two codes that a block brings along. -/
def ownCodes (bytes : ByteArray) (place : Nat) :
    Option (PrefixCode × PrefixCode × Nat) := do
  let (literals, place) ← read? bytes place 5
  let (distances, place) ← read? bytes place 5
  let (short, place) ← read? bytes place 4
  let literals := literals + 257
  let distances := distances + 1
  if 286 < literals ∨ 30 < distances then none
  else
    let (given, place) ← shortLengths bytes (short + 4) place
    let named := lengthOrder.zip given
    let lengths := (List.range 19).map fun symbol => (named.lookup symbol).getD 0
    let code ← checkedCode? lengths
    let (all, place) ← codeLengths bytes code (literals + distances)
      (literals + distances + 1) place [] 0
    let first := all.take literals
    if first.getD endOfBlock 0 = 0 then none
    else pure (← checkedCode? first, ← checkedCode? (all.drop literals), place)

/-- Blocks up to the last one. -/
def blocks (bytes : ByteArray) : (fuel : Nat) → (place : Nat) → ByteArray →
    Option (Nat × ByteArray)
  | 0, _, _ => none
  | fuel + 1, place, out => do
    let (last, place) ← read? bytes place 1
    let (kind, place) ← read? bytes place 2
    let (place, out) ←
      match kind with
      | 0 => stored bytes place out
      | 1 => symbols bytes fixedLiterals fixedDistances (8 * bytes.size + 1) place out
      | 2 => do
        let (literals, distances, place) ← ownCodes bytes place
        symbols bytes literals distances (8 * bytes.size + 1) place out
      | _ => none
    if last = 1 then pure (place, out) else blocks bytes fuel place out

/-- The header in front of the blocks is sound. -/
def soundHeader (cmf flags : Nat) : Bool :=
  cmf % 16 == 8 && cmf / 16 ≤ 7 && (cmf * 256 + flags) % 31 == 0 && flags / 32 % 2 == 0

/-- The data between a header and a checksum of four bytes.  The value of the
checksum is not looked at. -/
def unwrap? (bytes : ByteArray) : Option ByteArray := do
  let (cmf, place) ← read? bytes 0 8
  let (flags, place) ← read? bytes place 8
  if soundHeader cmf flags then
    let (place, out) ← blocks bytes (8 * bytes.size + 1) place ByteArray.empty
    let _ ← read? bytes (byteBoundary place) 32
    pure out
  else none

end MediaVault.Inflate

import MediaVault.Image.Bits

/-!
# Coded pixels

Pixels without loss are coded one after the other.  A symbol of the first of
five codes is a new pixel, a run of earlier pixels, or a colour that was seen
lately.  Different blocks of the image may use different codes; a smaller image
says which.
-/

namespace MediaVault.WebP

open Bits

/-- A pixel of four bytes. -/
structure Pixel where
  r : UInt8
  g : UInt8
  b : UInt8
  a : UInt8
deriving Repr, DecidableEq, Inhabited

namespace Pixel

/-- All bytes are zero. -/
def zero : Pixel := ⟨0, 0, 0, 0⟩

/-- Add byte by byte. -/
@[inline] def add (p q : Pixel) : Pixel := ⟨p.r + q.r, p.g + q.g, p.b + q.b, p.a + q.a⟩

end Pixel

/-- How many blocks of `2 ^ bits` pixels cover a size. -/
def blocksOf (size bits : Nat) : Nat := (size + (1 <<< bits) - 1) >>> bits

/-! ## Codes -/

/-- In which order the lengths of the code for lengths are given. -/
def lengthOrder : List Nat :=
  [17, 18, 0, 1, 2, 3, 4, 5, 16, 6, 7, 8, 9, 10, 11, 12, 13, 14, 15]

/-- The code with these lengths.  It has to use every word; a single symbol has
an empty one. -/
def completeCode? (lengths : List Nat) : Option PrefixCode :=
  match lengths.zipIdx.filter fun p => p.1 != 0 with
  | [] => none
  | [(_, symbol)] => some (.constant symbol)
  | _ =>
    if PrefixCode.slack? (PrefixCode.countsOf lengths) = some 0 then some (.ofLengths lengths)
    else none

/-- `count` numbers of three bits. -/
def shortLengths? (bytes : ByteArray) : (count : Nat) → (place : Nat) → Option (List Nat × Nat)
  | 0, place => some ([], place)
  | count + 1, place => do
    let (length, place) ← read? bytes place 3
    let (lengths, place) ← shortLengths? bytes count place
    pure (length :: lengths, place)

/-- Read up to `reads` symbols of the code for lengths; the lengths found are
collected last first.  `previous` is the last one that is not zero. -/
def codeLengths? (bytes : ByteArray) (code : PrefixCode) (wanted : Nat) :
    (reads : Nat) → (place previous : Nat) → List Nat → Option (List Nat × Nat)
  | 0, place, _, found => some (found, place)
  | reads + 1, place, previous, found =>
    if wanted ≤ found.length then some (found, place)
    else
      match code.next? bytes place with
      | none => none
      | some (symbol, place) =>
        if symbol < 16 then
          codeLengths? bytes code wanted reads place (if symbol = 0 then previous else symbol)
            (symbol :: found)
        else
          let run := if symbol = 16 then (2, 3) else if symbol = 17 then (3, 3) else (7, 11)
          match read? bytes place run.1 with
          | none => none
          | some (more, place) =>
            let count := run.2 + more
            if wanted < found.length + count then none
            else
              codeLengths? bytes code wanted reads place previous
                (List.replicate count (if symbol = 16 then previous else 0) ++ found)

/-- A code whose one or two symbols are named. -/
def plainCode? (bytes : ByteArray) (alphabet place : Nat) : Option (PrefixCode × Nat) := do
  let (two, place) ← read? bytes place 1
  let (wide, place) ← read? bytes place 1
  let (first, place) ← read? bytes place (1 + 7 * wide)
  if alphabet ≤ first then none
  else if two = 0 then pure (.constant first, place)
  else
    let (second, place) ← read? bytes place 8
    if alphabet ≤ second then none else pure (.words [2] #[first, second], place)

/-- A code for an alphabet of a given size. -/
def code? (bytes : ByteArray) (alphabet place : Nat) : Option (PrefixCode × Nat) := do
  let (plain, place) ← read? bytes place 1
  if plain = 1 then plainCode? bytes alphabet place
  else
    let (short, place) ← read? bytes place 4
    let (given, place) ← shortLengths? bytes (short + 4) place
    let named := lengthOrder.zip given
    let code ← completeCode? ((List.range 19).map fun symbol => (named.lookup symbol).getD 0)
    let (limited, place) ← read? bytes place 1
    let (reads, place) ←
      if limited = 0 then pure (alphabet, place)
      else do
        let (size, place) ← read? bytes place 3
        let (more, place) ← read? bytes place (2 + 2 * size)
        if alphabet < more + 2 then none else pure (more + 2, place)
    let (found, place) ← codeLengths? bytes code alphabet reads place 8 []
    pure (← completeCode? found.reverse, place)

/-- The five codes of a block. -/
structure Codes where
  /-- Green bytes, lengths of runs and lately seen colours. -/
  green : PrefixCode
  red : PrefixCode
  blue : PrefixCode
  alpha : PrefixCode
  distance : PrefixCode
deriving Inhabited

/-- Read five codes; `recent` is how many lately seen colours are kept. -/
def codes? (bytes : ByteArray) (recent place : Nat) : Option (Codes × Nat) := do
  let (green, place) ← code? bytes (256 + 24 + recent) place
  let (red, place) ← code? bytes 256 place
  let (blue, place) ← code? bytes 256 place
  let (alpha, place) ← code? bytes 256 place
  let (distance, place) ← code? bytes 40 place
  pure (⟨green, red, blue, alpha, distance⟩, place)

/-- Read `count` times five codes. -/
def allCodes? (bytes : ByteArray) (recent : Nat) : (count : Nat) → (place : Nat) → Array Codes →
    Option (Array Codes × Nat)
  | 0, place, found => some (found, place)
  | count + 1, place, found =>
    match codes? bytes recent place with
    | none => none
    | some (codes, place) => allCodes? bytes recent count place (found.push codes)

/-! ## Lately seen colours -/

/-- Colours by a hash of `bits` bits; none are kept when `bits` is zero. -/
structure Recent where
  bits : Nat
  colours : Array Pixel

namespace Recent

/-- All places hold zero. -/
def ofBits (bits : Nat) : Recent :=
  ⟨bits, if bits = 0 then #[] else Array.replicate (1 <<< bits) .zero⟩

/-- The place of a colour. -/
def hash (bits : Nat) (p : Pixel) : Nat :=
  let argb := ((p.a.toNat * 256 + p.r.toNat) * 256 + p.g.toNat) * 256 + p.b.toNat
  (0x1E35A7BD * argb % 0x100000000) >>> (32 - bits)

/-- Remember a colour. -/
def insert (s : Recent) (p : Pixel) : Recent :=
  if s.bits = 0 then s else { s with colours := s.colours.setIfInBounds (hash s.bits p) p }

end Recent

/-! ## Pixels -/

/-- The steps right and down that short distances stand for: down in the upper
four bits, and eight less the steps right in the lower four. -/
def nearby : Array Nat := #[
  0x18, 0x07, 0x17, 0x19, 0x28, 0x06, 0x27, 0x29, 0x16, 0x1A, 0x26, 0x2A, 0x38, 0x05, 0x37,
  0x39, 0x15, 0x1B, 0x36, 0x3A, 0x25, 0x2B, 0x48, 0x04, 0x47, 0x49, 0x14, 0x1C, 0x35, 0x3B,
  0x46, 0x4A, 0x24, 0x2C, 0x58, 0x45, 0x4B, 0x34, 0x3C, 0x03, 0x57, 0x59, 0x13, 0x1D, 0x56,
  0x5A, 0x23, 0x2D, 0x44, 0x4C, 0x55, 0x5B, 0x33, 0x3D, 0x68, 0x02, 0x67, 0x69, 0x12, 0x1E,
  0x66, 0x6A, 0x22, 0x2E, 0x54, 0x5C, 0x43, 0x4D, 0x65, 0x6B, 0x32, 0x3E, 0x78, 0x01, 0x77,
  0x79, 0x53, 0x5D, 0x11, 0x1F, 0x64, 0x6C, 0x42, 0x4E, 0x76, 0x7A, 0x21, 0x2F, 0x75, 0x7B,
  0x31, 0x3F, 0x63, 0x6D, 0x52, 0x5E, 0x00, 0x74, 0x7C, 0x41, 0x4F, 0x10, 0x20, 0x62, 0x6E,
  0x30, 0x73, 0x7D, 0x51, 0x5F, 0x40, 0x72, 0x7E, 0x61, 0x6F, 0x50, 0x71, 0x7F, 0x60, 0x70]

/-- How many pixels a distance goes back: the first numbers name pixels
nearby, the others count. -/
def distanceBack (width code : Nat) : Nat :=
  match nearby[code - 1]? with
  | some steps => ((steps / 16 * width + 8 : Nat) - (steps % 16 : Nat) : Int).toNat.max 1
  | none => code - nearby.size

/-- The number for a symbol of lengths or distances: larger ones are followed
by extra bits. -/
def extended? (bytes : ByteArray) (symbol place : Nat) : Option (Nat × Nat) :=
  if symbol < 4 then some (symbol + 1, place)
  else do
    let extra := (symbol - 2) / 2
    let (more, place) ← read? bytes place extra
    pure (((2 + symbol % 2) <<< extra) + more + 1, place)

/-- Repeat `length` pixels from `distance` pixels back. -/
def repeatBack (distance : Nat) : (length : Nat) → Array Pixel → Recent →
    Array Pixel × Recent
  | 0, out, recent => (out, recent)
  | length + 1, out, recent =>
    let p := out.getD (out.size - distance) .zero
    repeatBack distance length (out.push p) (recent.insert p)

/-- Take one symbol and what belongs to it. -/
def step? (bytes : ByteArray) (codes : Codes) (width wanted place : Nat) (out : Array Pixel)
    (recent : Recent) : Option (Array Pixel × Recent × Nat) := do
  let (symbol, place) ← codes.green.next? bytes place
  if symbol < 256 then
    let (red, place) ← codes.red.next? bytes place
    let (blue, place) ← codes.blue.next? bytes place
    let (alpha, place) ← codes.alpha.next? bytes place
    let p : Pixel := ⟨UInt8.ofNat red, UInt8.ofNat symbol, UInt8.ofNat blue, UInt8.ofNat alpha⟩
    pure (out.push p, recent.insert p, place)
  else if symbol < 256 + 24 then
    let (length, place) ← extended? bytes (symbol - 256) place
    let (code, place) ← codes.distance.next? bytes place
    let (code, place) ← extended? bytes code place
    let distance := distanceBack width code
    if out.size < distance ∨ wanted < out.size + length then none
    else
      let (out, recent) := repeatBack distance length out recent
      pure (out, recent, place)
  else
    let p ← recent.colours[symbol - (256 + 24)]?
    pure (out.push p, recent, place)

/-- Read pixels until `wanted` are there.  Every symbol gives at least one. -/
def pixels? (bytes : ByteArray) (codesAt : Nat → Codes) (width wanted : Nat) :
    (fuel : Nat) → (place : Nat) → Array Pixel → Recent → Option (Array Pixel × Nat)
  | 0, place, out, _ => if out.size = wanted then some (out, place) else none
  | fuel + 1, place, out, recent =>
    if out.size = wanted then some (out, place)
    else
      match step? bytes (codesAt out.size) width wanted place out recent with
      | none => none
      | some (out, recent, place) => pixels? bytes codesAt width wanted fuel place out recent

/-- How many bits the hash of lately seen colours has. -/
def recentBits? (bytes : ByteArray) (place : Nat) : Option (Nat × Nat) := do
  let (used, place) ← read? bytes place 1
  if used = 0 then pure (0, place)
  else
    let (bits, place) ← read? bytes place 4
    if bits = 0 ∨ 11 < bits then none else pure (bits, place)

/-- An image with the same codes for all pixels. -/
def plainImage? (bytes : ByteArray) (width height place : Nat) :
    Option (Array Pixel × Nat) := do
  let (bits, place) ← recentBits? bytes place
  let recent := Recent.ofBits bits
  let (codes, place) ← codes? bytes recent.colours.size place
  pixels? bytes (fun _ => codes) width (width * height) (width * height) place #[] recent

/-- An image whose blocks may have codes of their own. -/
def image? (bytes : ByteArray) (width height place : Nat) : Option (Array Pixel × Nat) := do
  let (bits, place) ← recentBits? bytes place
  let recent := Recent.ofBits bits
  let (blocked, place) ← read? bytes place 1
  if blocked = 0 then
    let (codes, place) ← codes? bytes recent.colours.size place
    pixels? bytes (fun _ => codes) width (width * height) (width * height) place #[] recent
  else
    let (size, place) ← read? bytes place 3
    let size := size + 2
    let across := blocksOf width size
    let (blocks, place) ← plainImage? bytes across (blocksOf height size) place
    let numbers := blocks.map fun p => p.r.toNat * 256 + p.g.toNat
    let (all, place) ← allCodes? bytes recent.colours.size (numbers.foldl max 0 + 1) place #[]
    let codesAt (index : Nat) : Codes :=
      let block := ((index / width) >>> size) * across + ((index % width) >>> size)
      all.getD (numbers.getD block 0) default
    pixels? bytes codesAt width (width * height) (width * height) place #[] recent

end MediaVault.WebP

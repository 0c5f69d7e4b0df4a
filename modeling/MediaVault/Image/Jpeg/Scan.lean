import MediaVault.Image.Bits
import MediaVault.Image.Jpeg.Cosine

/-!
# Entropy-coded scans

A scan is a sequence of units.  Each unit holds some blocks of every component,
and each block is a run of prefix-coded numbers.  Bits are taken from the
highest of each byte on; after the last byte they are zero, so a scan that
breaks off still fills the image.
-/

namespace MediaVault.Jpeg

open Bits (PrefixCode)
open Digest (byteAt)

/-! ## Bytes of a scan -/

/-- The bytes of a scan, cut where the prediction starts anew.  A byte of ones
is followed by a zero that does not count; any other byte after it is a
marker, and only a restart lets the scan go on. -/
def pieces (bytes : ByteArray) : (fuel : Nat) → (place : Nat) → ByteArray → List ByteArray
  | 0, _, out => [out]
  | fuel + 1, place, out =>
    if bytes.size ≤ place then [out]
    else
      let b := byteAt bytes place
      if b ≠ 0xFF then pieces bytes fuel (place + 1) (out.push b)
      else
        let next := byteAt bytes (place + 1)
        if next = 0 then pieces bytes fuel (place + 2) (out.push b)
        else if next = 0xFF then pieces bytes fuel (place + 1) out
        else if 0xD0 ≤ next ∧ next ≤ 0xD7 then
          out :: pieces bytes fuel (place + 2) ByteArray.empty
        else [out]

/-- The bit at a place, from the highest of each byte on. -/
@[inline] def highBit (bytes : ByteArray) (place : Nat) : Nat :=
  (byteAt bytes (place / 8)).toNat >>> (7 - place % 8) % 2

/-- The number made of `count` bits, the highest first, after `value`. -/
def numberFrom (bytes : ByteArray) : (count : Nat) → (place value : Nat) → Nat
  | 0, _, value => value
  | count + 1, place, value => numberFrom bytes count (place + 1) (2 * value + highBit bytes place)

/-- A signed number of `count` bits: the lower half of the codes stands for the
negative numbers. -/
def signed (count code : Nat) : Int :=
  if 2 * code < 1 <<< count then (code + 1 : Nat) - (1 <<< count : Nat) else code

/-- The next symbol of a code and the place after it. -/
def symbol? (bytes : ByteArray) (code : PrefixCode) (place : Nat) : Option (Nat × Nat) :=
  code.nextBy? (fun place => some (highBit bytes place)) place

/-! ## Blocks -/

/-- Where the numbers of a block stand in it. -/
def zigzag : Array Nat := #[
  0, 1, 8, 16, 9, 2, 3, 10, 17, 24, 32, 25, 18, 11, 4, 5, 12, 19, 26, 33, 40, 48, 41, 34, 27,
  20, 13, 6, 7, 14, 21, 28, 35, 42, 49, 56, 57, 50, 43, 36, 29, 22, 15, 23, 30, 37, 44, 51, 58,
  59, 52, 45, 38, 31, 39, 46, 53, 60, 61, 54, 47, 55, 62, 63]

/-- A component of the image and the tables that it uses. -/
structure Component where
  /-- Blocks across and down in each unit. -/
  across : Nat
  down : Nat
  /-- Steps between levels, in the order of the numbers. -/
  steps : Array Nat
  /-- The code for the mean of a block. -/
  means : PrefixCode
  /-- The code for all other numbers. -/
  waves : PrefixCode
deriving Inhabited

/-- Read the numbers from index `64 - left` on.  Each symbol gives how many are
zero and the bits of the next one. -/
def waves? (bytes : ByteArray) (c : Component) :
    (left : Nat) → (index place : Nat) → Array Int → Option (Array Int × Nat)
  | 0, _, place, block => some (block, place)
  | left + 1, index, place, block =>
    if 64 ≤ index then some (block, place)
    else
      match symbol? bytes c.waves place with
      | none => none
      | some (symbol, place) =>
        let zeros := symbol / 16
        let size := symbol % 16
        if size = 0 then
          if zeros = 15 then waves? bytes c left (index + 16) place block else some (block, place)
        else
          let index := index + zeros
          let level := signed size (numberFrom bytes size place 0) * (c.steps.getD index 1 : Nat)
          waves? bytes c left (index + 1) (place + size)
            (block.setIfInBounds (zigzag.getD index 63) level)

/-- The blocks of a component so far and the mean of the last one. -/
structure Plane where
  component : Component
  last : Int := 0
  blocks : Array ByteArray := #[]
deriving Inhabited

/-- Read the next `count` blocks of a component. -/
def blocks? (bytes : ByteArray) : (count : Nat) → (place : Nat) → Plane → Option (Plane × Nat)
  | 0, place, p => some (p, place)
  | count + 1, place, p =>
    match symbol? bytes p.component.means place with
    | none => none
    | some (size, place) =>
      let mean := p.last + signed size (numberFrom bytes size place 0)
      let block := (Array.replicate 64 (0 : Int)).setIfInBounds 0
        (mean * (p.component.steps.getD 0 1 : Nat))
      match waves? bytes p.component 63 1 (place + size) block with
      | none => none
      | some (block, place) =>
        blocks? bytes count place { p with last := mean, blocks := p.blocks.push (samples block) }

/-! ## Units -/

/-- Read one unit: some blocks of every component. -/
def unit? (bytes : ByteArray) : (place : Nat) → List Plane → Option (List Plane × Nat)
  | place, [] => some ([], place)
  | place, p :: rest => do
    let (p, place) ← blocks? bytes (p.component.across * p.component.down) place p
    let (rest, place) ← unit? bytes place rest
    pure (p :: rest, place)

/-- Read the last `left` units of an image.  After `interval` units, `todo` of
which are left, the next piece begins and the means start from zero; there
are no restarts when the interval is zero. -/
def units? (interval : Nat) : (left : Nat) → (todo : Nat) → (place : Nat) → List ByteArray →
    List Plane → Option (List Plane)
  | 0, _, _, _, planes => some planes
  | left + 1, todo, place, scan, planes =>
    match unit? (scan.headD ByteArray.empty) place planes with
    | none => none
    | some (planes, place) =>
      if todo = 1 then
        units? interval left interval 0 scan.tail (planes.map fun p => { p with last := 0 })
      else units? interval left (todo - 1) place scan planes

end MediaVault.Jpeg

import MediaVault.Digest.Crc32
import MediaVault.Image.Inflate
import MediaVault.Image.Raster

/-!
# PNG images

A PNG image is a sequence of checked chunks.  The pixels are compressed as
rows, each with a filter that predicts it from the row above and the pixel to
the left; an interlaced image has seven such sets of rows.  Transparency is
dropped.
-/

namespace MediaVault.Png

open Digest (byteAt)

/-- What every PNG image starts with. -/
def signature : ByteArray :=
  [0x89, 0x50, 0x4E, 0x47, 0x0D, 0x0A, 0x1A, 0x0A].toByteArray

/-- Four bytes as a number, the highest first. -/
def number (bytes : ByteArray) (place : Nat) : Nat :=
  (List.range 4).foldl (fun n i => n * 256 + (byteAt bytes (place + i)).toNat) 0

/-! ## Chunks -/

/-- A chunk: its name and where its content lies. -/
structure Chunk where
  name : String
  start : Nat
  length : Nat
deriving Repr, DecidableEq

/-- The place after a chunk and its checksum. -/
def Chunk.stop (c : Chunk) : Nat := c.start + c.length + 4

/-- Chunks that a reader may skip begin with a small letter. -/
def Chunk.isCritical (c : Chunk) : Bool :=
  match c.name.toList with
  | letter :: _ => letter.isUpper
  | [] => true

/-- The checksum after the content is right. -/
def Chunk.isIntact (bytes : ByteArray) (c : Chunk) : Bool :=
  c.stop ≤ bytes.size &&
    Digest.crc32 bytes (c.start - 4) (c.length + 4) ==
      UInt32.ofNat (number bytes (c.start + c.length))

/-- The head of the chunk at a place. -/
def chunkAt? (bytes : ByteArray) (place : Nat) : Option Chunk :=
  if place + 8 ≤ bytes.size then
    let name := (List.range 4).map fun i => Char.ofNat (byteAt bytes (place + 4 + i)).toNat
    some ⟨String.ofList name, place + 8, number bytes place⟩
  else none

/-! ## The header -/

/-- The kinds of colours. -/
inductive ColourType where
  | grey
  | rgb
  | indexed
  | greyAlpha
  | rgbAlpha
deriving Repr, DecidableEq

/-- How many numbers make a pixel. -/
def ColourType.channels : ColourType → Nat
  | grey | indexed => 1
  | greyAlpha => 2
  | rgb => 3
  | rgbAlpha => 4

/-- The kind of colours for a code and the bits of each number. -/
def ColourType.ofCode? (code depth : Nat) : Option ColourType :=
  match code with
  | 0 => if [1, 2, 4, 8, 16].contains depth then some grey else none
  | 2 => if [8, 16].contains depth then some rgb else none
  | 3 => if [1, 2, 4, 8].contains depth then some indexed else none
  | 4 => if [8, 16].contains depth then some greyAlpha else none
  | 6 => if [8, 16].contains depth then some rgbAlpha else none
  | _ => none

/-- What the header says. -/
structure Header where
  width : Nat
  height : Nat
  depth : Nat
  colour : ColourType
  interlaced : Bool
deriving Repr, DecidableEq

/-- Read the header, which is the first chunk. -/
def header? (bytes : ByteArray) : Option (Header × Nat) := do
  let c ← chunkAt? bytes 8
  if c.name ≠ "IHDR" ∨ c.length ≠ 13 ∨ !c.isIntact bytes then none
  else
    let byte (i : Nat) : Nat := (byteAt bytes (c.start + i)).toNat
    let colour ← ColourType.ofCode? (byte 9) (byte 8)
    let width := number bytes c.start
    let height := number bytes (c.start + 4)
    if width = 0 ∨ height = 0 ∨ byte 10 ≠ 0 ∨ byte 11 ≠ 0 ∨ 1 < byte 12 then none
    else pure (⟨width, height, byte 8, colour, byte 12 == 1⟩, c.stop)

/-! ## The body -/

/-- The palette and the compressed pixels. -/
structure Body where
  palette : Option ByteArray := none
  packed : ByteArray := ByteArray.empty
  /-- Whether pixels were found; they have to be neighbours. -/
  begun : Bool := false

/-- Read chunks from a place on.  The head of the chunk after the pixels has to
be there. -/
def body (bytes : ByteArray) : (fuel : Nat) → (place : Nat) → Body → Option Body
  | 0, _, _ => none
  | fuel + 1, place, found =>
    match chunkAt? bytes place with
    | none => none
    | some c =>
      if found.begun && c.name != "IDAT" then some found
      else if !c.isIntact bytes then
        if c.isCritical || bytes.size < c.stop then none else body bytes fuel c.stop found
      else
        let content := bytes.extract c.start (c.start + c.length)
        match c.name with
        | "IDAT" =>
          body bytes fuel c.stop { found with packed := found.packed ++ content, begun := true }
        | "PLTE" =>
          if c.length % 3 ≠ 0 ∨ 768 < c.length ∨ found.palette.isSome then none
          else body bytes fuel c.stop { found with palette := some content }
        | _ => if c.isCritical then none else body bytes fuel c.stop found

/-! ## Rows -/

/-- The neighbour that is nearest to the sum of left and above less the one
between them. -/
def nearest (left above corner : Nat) : Nat :=
  let p : Int := left + above - corner
  let dl := (p - left).natAbs
  let da := (p - above).natAbs
  let dc := (p - corner).natAbs
  if dl ≤ da ∧ dl ≤ dc then left else if da ≤ dc then above else corner

/-- The prediction of a filter. -/
def predict? (filter left above corner : Nat) : Option Nat :=
  match filter with
  | 0 => some 0
  | 1 => some left
  | 2 => some above
  | 3 => some ((left + above) / 2)
  | 4 => some (nearest left above corner)
  | _ => none

/-- Undo the filter of the last `left` bytes of a row.  `out` holds the rows so
far, `row` is where the current one began and `step` the bytes of a pixel. -/
def unfilterRow (data : ByteArray) (filter place width step row : Nat) (first : Bool) :
    (left : Nat) → ByteArray → Option ByteArray
  | 0, out => some out
  | left + 1, out =>
    let i := width - (left + 1)
    let behind (back : Nat) : Nat := (byteAt out (out.size - back)).toNat
    let hasLeft := step ≤ i
    let before := if hasLeft then behind step else 0
    let above := if first then 0 else behind width
    let corner := if first || !hasLeft then 0 else behind (width + step)
    match predict? filter before above corner with
    | none => none
    | some p =>
      unfilterRow data filter place width step row first left
        (out.push (UInt8.ofNat ((byteAt data (place + i)).toNat + p)))

/-- Undo the filters of the last `left` rows of `width` bytes; the data of the
first of them begins at `place` with the number of its filter. -/
def unfilter (data : ByteArray) (width step : Nat) (first : Bool) :
    (left : Nat) → (place : Nat) → ByteArray → Option ByteArray
  | 0, _, out => some out
  | left + 1, place, out =>
    if data.size < place + 1 + width then none
    else
      match unfilterRow data (byteAt data place).toNat (place + 1) width step out.size first
          width out with
      | none => none
      | some out => unfilter data width step false left (place + 1 + width) out

/-- A set of rows: which pixels it holds and its bytes. -/
structure Pass where
  x : Nat
  y : Nat
  dx : Nat
  dy : Nat
  /-- Bytes of a row. -/
  rowBytes : Nat
  bytes : ByteArray

/-- The pixels of the seven sets: first column and row, then the steps. -/
def interlacedPasses : List (Nat × Nat × Nat × Nat) :=
  [(0, 0, 8, 8), (4, 0, 8, 8), (0, 4, 4, 8), (2, 0, 4, 4), (0, 2, 2, 4), (1, 0, 2, 2),
    (0, 1, 1, 2)]

/-- How many steps of `d` from `start` stay below `size`. -/
def steps (start d size : Nat) : Nat :=
  (size - start + (d - 1)) / d

/-- Bits of a pixel. -/
def Header.pixelBits (h : Header) : Nat := h.depth * h.colour.channels

/-- Bytes of a decoded pixel; entries of a palette have three. -/
def Header.pixelBytes (h : Header) : Nat :=
  if h.colour == .indexed then 3 else (h.depth + 7) / 8 * h.colour.channels

/-- The sets of rows, read one after the other from `place` on. -/
def passes (h : Header) (data : ByteArray) :
    List (Nat × Nat × Nat × Nat) → (place : Nat) → Option (List Pass)
  | [], _ => some []
  | (x, y, dx, dy) :: rest, place =>
    let width := steps x dx h.width
    let height := steps y dy h.height
    if width = 0 ∨ height = 0 then passes h data rest place
    else do
      let rowBytes := (width * h.pixelBits + 7) / 8
      if data.size < place + height * (rowBytes + 1) then none
      else
        let bytes ← unfilter data rowBytes (max 1 (h.pixelBits / 8)) true height place
          ByteArray.empty
        let more ← passes h data rest (place + height * (rowBytes + 1))
        pure (⟨x, y, dx, dy, rowBytes, bytes⟩ :: more)

/-! ## Pixels -/

/-- The number at an index of a row, in its own depth. -/
def sample (depth : Nat) (bytes : ByteArray) (row index : Nat) : Nat :=
  if depth = 16 then
    (byteAt bytes (row + 2 * index)).toNat * 256 + (byteAt bytes (row + 2 * index + 1)).toNat
  else if depth = 8 then (byteAt bytes (row + index)).toNat
  else
    let bit := index * depth
    (byteAt bytes (row + bit / 8)).toNat >>> (8 - depth - bit % 8) % (1 <<< depth)

/-- A number of any depth as a byte. -/
def toByte (depth value : Nat) : UInt8 :=
  UInt8.ofNat (if depth = 16 then (value + 128) / 257 else value * 255 / ((1 <<< depth) - 1))

/-- An entry of the palette; one that does not exist is black. -/
def paletteColour (palette : ByteArray) (index : Nat) : Rgb :=
  if 3 * index + 3 ≤ palette.size then
    ⟨byteAt palette (3 * index), byteAt palette (3 * index + 1), byteAt palette (3 * index + 2)⟩
  else .black

/-- The colour of a pixel in a set of rows. -/
def pixel (h : Header) (palette : ByteArray) (p : Pass) (x y : Nat) : Rgb :=
  let row := (y - p.y) / p.dy * p.rowBytes
  let index := (x - p.x) / p.dx * h.colour.channels
  let value (i : Nat) : Nat := sample h.depth p.bytes row (index + i)
  match h.colour with
  | .indexed => paletteColour palette (value 0)
  | .grey | .greyAlpha => .grey (toByte h.depth (value 0))
  | .rgb | .rgbAlpha =>
    ⟨toByte h.depth (value 0), toByte h.depth (value 1), toByte h.depth (value 2)⟩

/-- The set of rows that holds a pixel. -/
def holds (x y : Nat) (p : Pass) : Bool :=
  p.x ≤ x && p.y ≤ y && (x - p.x) % p.dx == 0 && (y - p.y) % p.dy == 0

/-- The colour of a pixel. -/
def colourAt (h : Header) (palette : ByteArray) (all : List Pass) (x y : Nat) : Rgb :=
  match all.find? (holds x y) with
  | some p => pixel h palette p x y
  | none => .black

/-- Decode a PNG image. -/
def decode? (bytes : ByteArray) : Option Raster :=
  if bytes.extract 0 8 != signature then none
  else do
    let (h, place) ← header? bytes
    let found ← body bytes bytes.size place {}
    if !Raster.fits h.width h.height h.pixelBytes then none
    else if h.colour == .indexed && found.palette.isNone then none
    else
      let data ← Inflate.unwrap? found.packed
      let all ← passes h data (if h.interlaced then interlacedPasses else [(0, 0, 1, 1)]) 0
      pure (Raster.generate h.width h.height (colourAt h (found.palette.getD ByteArray.empty) all))

end MediaVault.Png

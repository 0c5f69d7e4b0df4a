import MediaVault.Image.Lzw
import MediaVault.Image.Raster

/-!
# GIF images

Only the first frame is decoded.  It lies somewhere on a black screen; what
falls outside is cut off.  Transparency is dropped, and a colour that the
palette does not have is black.
-/

namespace MediaVault.Gif

open Digest (byteAt)

/-- Two bytes as a number, the lowest first. -/
def number (bytes : ByteArray) (place : Nat) : Nat :=
  (byteAt bytes place).toNat + 256 * (byteAt bytes (place + 1)).toNat

/-- The two versions of the format. -/
def isSignature (bytes : ByteArray) : Bool :=
  let lead := bytes.extract 0 6
  lead == "GIF87a".toUTF8 || lead == "GIF89a".toUTF8

/-- The palette that the flags announce, and the place after it. -/
def palette? (bytes : ByteArray) (flags place : Nat) : Option (Option ByteArray × Nat) :=
  if flags / 128 = 0 then some (none, place)
  else
    let size := 3 <<< (flags % 8 + 1)
    if place + size ≤ bytes.size then some (some (bytes.extract place (place + size)), place + size)
    else none

/-- The content of a run of sub-blocks and the place after the empty one that
ends it. -/
def subBlocks (bytes : ByteArray) : (fuel : Nat) → (place : Nat) → ByteArray →
    Option (ByteArray × Nat)
  | 0, _, _ => none
  | fuel + 1, place, out =>
    if bytes.size ≤ place then none
    else
      let length := (byteAt bytes place).toNat
      if length = 0 then some (out, place + 1)
      else if bytes.size < place + 1 + length then none
      else subBlocks bytes fuel (place + 1 + length)
        (out ++ bytes.extract (place + 1) (place + 1 + length))

/-- A frame and the colours of its pixels. -/
structure Frame where
  left : Nat
  top : Nat
  width : Nat
  height : Nat
  interlaced : Bool
  palette : ByteArray
  indices : ByteArray

/-- The row of the data that holds row `y` of an interlaced frame. -/
def interlacedRow (height y : Nat) : Nat :=
  let first := (height + 7) / 8
  let second := (height + 3) / 8
  let third := (height + 1) / 4
  if y % 8 = 0 then y / 8
  else if y % 8 = 4 then first + y / 8
  else if y % 4 = 2 then first + second + y / 4
  else first + second + third + y / 2

/-- Read the pixels of a frame: the size of a symbol, then sub-blocks.  Data
that breaks off is used as far as it goes. -/
def pixels? (bytes : ByteArray) (place wanted : Nat) : Option ByteArray := do
  if bytes.size ≤ place then none
  else
    let bits := (byteAt bytes place).toNat
    if bits = 0 ∨ 11 < bits then none
    else
      let (packed, _) ← subBlocks bytes bytes.size (place + 1) ByteArray.empty
      Lzw.symbols? packed bits wanted

/-- Read a frame whose descriptor begins at a place. -/
def frame? (bytes : ByteArray) (common : Option ByteArray) (place : Nat) : Option Frame := do
  if bytes.size < place + 9 then none
  else
    let flags := (byteAt bytes (place + 8)).toNat
    let width := number bytes (place + 4)
    let height := number bytes (place + 6)
    let (own, next) ← palette? bytes flags (place + 9)
    let colours ← own.or common
    let indices ← pixels? bytes next (width * height)
    pure
      { left := number bytes place, top := number bytes (place + 2), width := width
        height := height, interlaced := flags / 64 % 2 == 1, palette := colours
        indices := indices }

/-- The first frame after a place; extensions are skipped. -/
def firstFrame? (bytes : ByteArray) (common : Option ByteArray) : (fuel : Nat) → (place : Nat) →
    Option Frame
  | 0, _ => none
  | fuel + 1, place =>
    if bytes.size ≤ place then none
    else
      match (byteAt bytes place).toNat with
      | 0x2C => frame? bytes common (place + 1)
      | 0x21 =>
        match subBlocks bytes bytes.size (place + 2) ByteArray.empty with
        | some (_, next) => firstFrame? bytes common fuel next
        | none => none
      | _ => none

/-- The colour of a frame's pixel. -/
def Frame.colour (f : Frame) (x y : Nat) : Rgb :=
  let row := if f.interlaced then interlacedRow f.height y else y
  let index := (byteAt f.indices (row * f.width + x)).toNat
  if 3 * index + 3 ≤ f.palette.size then
    ⟨byteAt f.palette (3 * index), byteAt f.palette (3 * index + 1),
      byteAt f.palette (3 * index + 2)⟩
  else .black

/-- The colour of a place on the screen. -/
def Frame.onScreen (f : Frame) (x y : Nat) : Rgb :=
  if f.left ≤ x ∧ x < f.left + f.width ∧ f.top ≤ y ∧ y < f.top + f.height then
    f.colour (x - f.left) (y - f.top)
  else .black

/-- Decode the first frame of a GIF image. -/
def decode? (bytes : ByteArray) : Option Raster :=
  if !isSignature bytes || bytes.size < 13 then none
  else do
    let width := number bytes 6
    let height := number bytes 8
    let (common, place) ← palette? bytes (byteAt bytes 10).toNat 13
    let f ← firstFrame? bytes common bytes.size place
    if !Raster.fits width height 4 then none
    else if width = 0 ∨ height = 0 ∨ f.width = 0 ∨ f.height = 0 then none
    else pure (Raster.generate width height f.onScreen)

end MediaVault.Gif

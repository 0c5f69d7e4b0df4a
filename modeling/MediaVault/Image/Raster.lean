/-!
# Decoded images

A raster holds three bytes per pixel, row by row.  Its invariant is that the
buffer has exactly the size that the dimensions call for, so no reader has to
look for missing pixels.
-/

namespace MediaVault

/-- A colour of three bytes. -/
structure Rgb where
  r : UInt8
  g : UInt8
  b : UInt8
deriving Repr, DecidableEq, Inhabited

namespace Rgb

/-- The darkest colour. -/
def black : Rgb := ⟨0, 0, 0⟩

/-- A shade of grey. -/
def grey (v : UInt8) : Rgb := ⟨v, v, v⟩

/-- Append the bytes of a colour. -/
@[inline] def push (out : ByteArray) (c : Rgb) : ByteArray :=
  ((out.push c.r).push c.g).push c.b

end Rgb

/-- Packed RGB pixels, row by row. -/
structure Raster where
  width : Nat
  height : Nat
  rgb : ByteArray
  size_rgb : rgb.size = width * height * 3

namespace Raster

/-- The raster with these pixels, when there are as many as the dimensions
call for. -/
def ofRgb? (width height : Nat) (rgb : ByteArray) : Option Raster :=
  if h : rgb.size = width * height * 3 then some ⟨width, height, rgb, h⟩ else none

/-- Decoded pixels may take up to 512 MiB. -/
def memoryLimit : Nat := 512 * 1024 * 1024

/-- Pixels of so many bytes stay within the limit. -/
def fits (width height pixelBytes : Nat) : Bool :=
  width * height * pixelBytes ≤ memoryLimit

/-- Append the last `left` pixels of a row. -/
def pushRow (pixel : Nat → Rgb) (width : Nat) : (left : Nat) → ByteArray → ByteArray
  | 0, out => out
  | left + 1, out => pushRow pixel width left (Rgb.push out (pixel (width - (left + 1))))

/-- Append the last `left` rows. -/
def pushRows (pixel : Nat → Nat → Rgb) (width height : Nat) :
    (left : Nat) → ByteArray → ByteArray
  | 0, out => out
  | left + 1, out =>
    let y := height - (left + 1)
    pushRows pixel width height left (pushRow (fun x => pixel x y) width width out)

theorem size_pushRow (pixel : Nat → Rgb) (width left : Nat) (out : ByteArray) :
    (pushRow pixel width left out).size = out.size + left * 3 := by
  induction left generalizing out with
  | zero => simp [pushRow]
  | succ n ih => simp only [pushRow, ih, Rgb.push, ByteArray.size_push]; omega

theorem size_pushRows (pixel : Nat → Nat → Rgb) (width height left : Nat) (out : ByteArray) :
    (pushRows pixel width height left out).size = out.size + left * (width * 3) := by
  induction left generalizing out with
  | zero => simp [pushRows]
  | succ n ih => simp only [pushRows, ih, size_pushRow, Nat.add_mul, Nat.one_mul]; omega

/-- The raster with a colour for every place. -/
def generate (width height : Nat) (pixel : Nat → Nat → Rgb) : Raster where
  width := width
  height := height
  rgb := pushRows pixel width height height ByteArray.empty
  size_rgb := by
    rw [size_pushRows, ByteArray.size_empty, Nat.zero_add, ← Nat.mul_assoc, Nat.mul_comm height]

end Raster

end MediaVault

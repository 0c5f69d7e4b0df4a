import MediaVault.Image.Base83
import MediaVault.Image.Raster

/-!
# Placeholder hashes

An image is projected onto a small grid of cosine waves in linear light.  The
coefficients are rounded to a few levels and written as base-83 numerals: one
digit for the grid, one for the largest coefficient, four for the mean colour
and two for every other coefficient.  All arithmetic is in single precision,
and every coefficient sums the pixels row by row.
-/

namespace MediaVault.Blurhash

/-- The number nearest to π. -/
def pi : Float32 := Float32.ofBits 0x40490FDB

/-- A natural number as a single-precision one. -/
def ofNat (n : Nat) : Float32 := n.toUInt64.toFloat32

/-- `low` and `high` bound the value; what is no number stays so. -/
def clamp (low high v : Float32) : Float32 :=
  if v < low then low else if high < v then high else v

/-- The larger of two numbers; a number wins over what is none. -/
def larger (a b : Float32) : Float32 :=
  if a.isNaN then b else if b.isNaN then a else if a < b then b else a

/-- Linear light of each byte value. -/
def linearLight : Vector Float32 256 :=
  Vector.ofFn fun i =>
    let v := ofNat i.val / 255.0
    if v ≤ 0.04045 then v / 12.92 else ((v + 0.055) / 1.055).pow 2.4

/-- The byte value nearest to an amount of linear light. -/
def quantiseLight (value : Float32) : UInt32 :=
  let v := clamp 0.0 1.0 value
  if v ≤ 0.0031308 then (v * 12.92 * 255.0 + 0.5).toUInt32
  else ((1.055 * v.pow (1.0 / 2.4) - 0.055) * 255.0 + 0.5).toUInt32

/-- One wave of `i` half periods, sampled at `n` points. -/
def wave (i n : Nat) : Vector Float32 n :=
  Vector.ofFn fun p => (pi * ofNat i * ofNat p.val / ofNat n).cos

/-- Three sums, one for each channel. -/
structure Factor where
  r : Float32
  g : Float32
  b : Float32
deriving Repr, Inhabited

/-- The three bytes of a pixel lie inside the buffer. -/
theorem pixel_in_bounds {w h x y : Nat} (hx : x < w) (hy : y < h) :
    (y * w + x) * 3 + 2 < w * h * 3 := by
  have : y * w + x < h * w := by
    calc y * w + x < y * w + w := by omega
      _ = (y + 1) * w := by rw [Nat.add_mul, Nat.one_mul]
      _ ≤ h * w := Nat.mul_le_mul_right w hy
  have hc : h * w = w * h := Nat.mul_comm h w
  omega

/-- Linear light of a byte. -/
@[inline] def light (b : UInt8) : Float32 :=
  linearLight.get ⟨b.toNat, b.toNat_lt⟩

/-- Add the last `left` pixels of row `y` to the sums. -/
def addRow (image : Raster) (across : Vector Float32 image.width) (down : Float32)
    (y : Nat) (hy : y < image.height) :
    (left : Nat) → left ≤ image.width → Float32 → Float32 → Float32 → Factor
  | 0, _, r, g, b => ⟨r, g, b⟩
  | left + 1, h, r, g, b =>
    let x := image.width - (left + 1)
    have hx : x < image.width := by omega
    let at0 := (y * image.width + x) * 3
    have bound : at0 + 2 < image.rgb.size := by
      rw [image.size_rgb]; exact pixel_in_bounds hx hy
    let basis := across[x] * down
    addRow image across down y hy left (Nat.le_of_succ_le h)
      (r + basis * light image.rgb[at0]) (g + basis * light image.rgb[at0 + 1])
      (b + basis * light image.rgb[at0 + 2])

/-- Add the last `left` rows to the sums. -/
def addRows (image : Raster) (across : Vector Float32 image.width)
    (down : Vector Float32 image.height) : (left : Nat) → left ≤ image.height → Factor → Factor
  | 0, _, f => f
  | left + 1, h, f =>
    let y := image.height - (left + 1)
    have hy : y < image.height := by omega
    addRows image across down left (Nat.le_of_succ_le h)
      (addRow image across down[y] y hy image.width (Nat.le_refl _) f.r f.g f.b)

/-- The coefficient for `i` half periods across and `j` down. -/
def coefficient (image : Raster) (i j : Nat) : Factor :=
  let f := addRows image (wave i image.width) (wave j image.height) image.height
    (Nat.le_refl _) ⟨0.0, 0.0, 0.0⟩
  let weight := (if i = 0 ∧ j = 0 then 1.0 else 2.0) * (1.0 / ofNat (image.width * image.height))
  ⟨f.r * weight, f.g * weight, f.b * weight⟩

/-- The mean colour as one number of three bytes. -/
def encodeMean (f : Factor) : UInt32 :=
  (quantiseLight f.r <<< 16) + (quantiseLight f.g <<< 8) + quantiseLight f.b

/-- The square root of the magnitude, with the sign of the value. -/
def signedRoot (v : Float32) : Float32 :=
  let root := v.abs.pow 0.5
  Float32.ofBits ((root.toBits &&& 0x7FFFFFFF) ||| (v.toBits &&& 0x80000000))

/-- One of 19 levels. -/
def quantiseWave (largest v : Float32) : UInt32 :=
  (clamp 0.0 18.0 (signedRoot (v / largest) * 9.0 + 9.5).floor).toUInt32

/-- A coefficient as one number of three levels. -/
def encodeWave (f : Factor) (largest : Float32) : UInt32 :=
  quantiseWave largest f.r * 361 + quantiseWave largest f.g * 19 + quantiseWave largest f.b

/-- The largest magnitude among the coefficients. -/
def largestMagnitude (factors : List Factor) : Float32 :=
  factors.foldl (fun m f => larger (larger (larger m f.r.abs) f.g.abs) f.b.abs) 0.0

/-- The largest magnitude as one of 83 levels. -/
def quantiseLargest (m : Float32) : UInt32 :=
  (clamp 0.0 82.0 (m * 166.0 - 0.5).floor).toUInt32

/-- The magnitude that a level stands for; 1 without any waves. -/
def scaleOf (waves : List Factor) : UInt32 × Float32 :=
  if waves.isEmpty then (0, 1.0)
  else
    let level := quantiseLargest (largestMagnitude waves)
    (level, (level.toFloat32 + 1.0) / 166.0)

/-- The grid positions after the first, row by row. -/
def positions (cx cy : Nat) : List (Nat × Nat) :=
  ((List.range cy).flatMap fun j => (List.range cx).map fun i => (i, j)).tail

/-- The characters of a hash. -/
def chars (image : Raster) (cx cy : Nat) : List Char :=
  let mean := coefficient image 0 0
  let waves := (positions cx cy).map fun p => coefficient image p.1 p.2
  let scale := scaleOf waves
  let head := Base83.numeral ((cx - 1) + (cy - 1) * 9) 1 ++ Base83.numeral scale.1.toNat 1 ++
    Base83.numeral (encodeMean mean).toNat 4
  head ++ waves.flatMap fun f => Base83.numeral (encodeWave f scale.2).toNat 2

/-- The hash of an image on a grid of `cx` by `cy` waves.  There is none for a
grid outside 1 to 9 or an image without pixels. -/
def ofRaster? (cx cy : Nat) (image : Raster) : Option String :=
  if 1 ≤ cx ∧ cx ≤ 9 ∧ 1 ≤ cy ∧ cy ≤ 9 ∧ 0 < image.width ∧ 0 < image.height then
    some (String.ofList (chars image cx cy))
  else none

/-- The hash of packed pixels; there is none when their number does not fit the
dimensions. -/
def encode (cx cy width height : Nat) (rgb : ByteArray) : Option String :=
  (Raster.ofRgb? width height rgb).bind (ofRaster? cx cy)

end MediaVault.Blurhash

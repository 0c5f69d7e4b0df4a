import MediaVault.Image.WebP.Pixels

/-!
# Transforms of pixels

Before they are coded, pixels are replaced by the difference from a prediction,
colours are made independent of each other, or a palette is introduced.  The
decoder undoes these steps in reverse order.
-/

namespace MediaVault.WebP

open Bits

/-- A step that was applied before coding. -/
inductive Transform where
  /-- Each block of `2 ^ bits` pixels has a predictor. -/
  | predict (bits : Nat) (blocks : Array Pixel)
  /-- Each block of `2 ^ bits` pixels has multipliers between its colours. -/
  | crossColour (bits : Nat) (blocks : Array Pixel)
  /-- Green was subtracted from red and blue. -/
  | subtractGreen
  /-- Pixels are indices of colours; `2 ^ bits` of them share one. -/
  | palette (bits : Nat) (colours : Array Pixel)

namespace Transform

/-! ## Predictions -/

/-- The mean of two bytes. -/
@[inline] def mean (a b : UInt8) : UInt8 := UInt8.ofNat ((a.toNat + b.toNat) / 2)

/-- A number moved into the range of a byte. -/
@[inline] def toByte (v : Int) : UInt8 := UInt8.ofNat (min v.toNat 255)

/-- Combine two pixels byte by byte. -/
@[inline] def zip (f : UInt8 → UInt8 → UInt8) (p q : Pixel) : Pixel :=
  ⟨f p.r q.r, f p.g q.g, f p.b q.b, f p.a q.a⟩

/-- The mean of two pixels. -/
def meanOf (p q : Pixel) : Pixel := zip mean p q

/-- How far apart two bytes are. -/
def distance (a b : UInt8) : Nat := ((a.toNat : Int) - b.toNat).natAbs

/-- The sum of the distances of all bytes. -/
def distances (p q : Pixel) : Nat :=
  distance p.r q.r + distance p.g q.g + distance p.b q.b + distance p.a q.a

/-- Left or above, whichever is nearer to their sum less the corner. -/
def select (left above corner : Pixel) : Pixel :=
  if distances above corner < distances left corner then left else above

/-- The sum of two bytes less a third. -/
def gradient (a b c : UInt8) : UInt8 := toByte ((a.toNat : Int) + b.toNat - c.toNat)

/-- A byte moved away from another by half of their difference. -/
def overshoot (a b : UInt8) : UInt8 :=
  toByte ((a.toNat : Int) + ((a.toNat : Int) - b.toNat).tdiv 2)

/-- The prediction of a mode from the neighbours to the left, above, and above
to the right and the left. -/
def prediction (mode : Nat) (l t tr tl : Pixel) : Pixel :=
  match mode with
  | 0 => ⟨0, 0, 0, 255⟩
  | 1 => l
  | 2 => t
  | 3 => tr
  | 4 => tl
  | 5 => meanOf (meanOf l tr) t
  | 6 => meanOf l tl
  | 7 => meanOf l t
  | 8 => meanOf tl t
  | 9 => meanOf t tr
  | 10 => meanOf (meanOf l tl) (meanOf t tr)
  | 11 => select l t tl
  | 12 => ⟨gradient l.r t.r tl.r, gradient l.g t.g tl.g, gradient l.b t.b tl.b,
      gradient l.a t.a tl.a⟩
  | 13 => zip overshoot (meanOf l t) tl
  | _ => .zero

/-- The prediction for the next pixel.  The first row is predicted from the
left, and the first column from above. -/
def predictNext (width bits : Nat) (blocks out : Array Pixel) : Pixel :=
  let x := out.size % width
  let y := out.size / width
  let behind (back : Nat) : Pixel := out.getD (out.size - back) .zero
  if y = 0 then if x = 0 then ⟨0, 0, 0, 255⟩ else behind 1
  else if x = 0 then behind width
  else
    let block := blocks.getD ((y >>> bits) * blocksOf width bits + (x >>> bits)) .zero
    prediction block.g.toNat (behind 1) (behind width) (behind (width - 1)) (behind (width + 1))

/-! ## Colours -/

/-- A byte with a sign. -/
@[inline] def signed (b : UInt8) : Int := b.toInt8.toInt

/-- The product of two signed bytes in units of 1/32. -/
def portion (a b : UInt8) : UInt8 :=
  UInt8.ofNat (signed a * signed b / 32 % 256).toNat

/-- Add to red and blue what other colours predict of them. -/
def addPortions (multipliers p : Pixel) : Pixel :=
  let red := p.r + portion multipliers.b p.g
  { p with r := red, b := p.b + portion multipliers.g p.g + portion multipliers.r red }

/-- The index that shares a pixel with others, the first in the lowest bits. -/
def index (bits x : Nat) (p : Pixel) : Nat :=
  let size := 8 >>> bits
  p.g.toNat >>> (x % (1 <<< bits) * size) % (1 <<< size)

/-! ## Undoing -/

/-- The width of the pixels that are coded for a row of `width`. -/
def codedWidth (width : Nat) : Transform → Nat
  | palette bits _ => blocksOf width bits
  | _ => width

/-- Undo a step for rows of `width` pixels. -/
def undo (t : Transform) (width height : Nat) (coded : Array Pixel) : Array Pixel :=
  match t with
  | predict bits blocks =>
    coded.foldl (fun out p => out.push (p.add (predictNext width bits blocks out)))
      (Array.emptyWithCapacity coded.size)
  | crossColour bits blocks =>
    coded.mapIdx fun i p =>
      let block := ((i / width) >>> bits) * blocksOf width bits + ((i % width) >>> bits)
      addPortions (blocks.getD block .zero) p
  | subtractGreen => coded.map fun p => { p with r := p.r + p.g, b := p.b + p.g }
  | palette bits colours =>
    (Array.range (width * height)).map fun i =>
      let x := i % width
      let p := coded.getD (i / width * blocksOf width bits + (x >>> bits)) .zero
      colours.getD (index bits x p) .zero

/-! ## Reading -/

/-- How many bits the number of indices in a pixel has. -/
def sharedBits (colours : Nat) : Nat :=
  if colours ≤ 2 then 3 else if colours ≤ 4 then 2 else if colours ≤ 16 then 1 else 0

/-- Undo the differences between neighbouring colours of a palette. -/
def sums (colours : Array Pixel) : Array Pixel :=
  (colours.foldl (fun (out, last) p => (out.push (p.add last), p.add last)) (#[], Pixel.zero)).1

/-- Read the step of a kind, for rows of `width` pixels. -/
def ofKind? (bytes : ByteArray) (kind width height place : Nat) : Option (Transform × Nat) :=
  match kind with
  | 0 | 1 => do
    let (bits, place) ← read? bytes place 3
    let bits := bits + 2
    let (blocks, place) ←
      plainImage? bytes (blocksOf width bits) (blocksOf height bits) place
    pure (if kind = 0 then predict bits blocks else crossColour bits blocks, place)
  | 2 => some (subtractGreen, place)
  | _ => do
    let (count, place) ← read? bytes place 8
    let (colours, place) ← plainImage? bytes (count + 1) 1 place
    pure (palette (sharedBits (count + 1)) (sums colours), place)

/-- Read the steps; each kind is used at most once.  The last one applied
stands first, with the width of its rows, and the width of the coded rows comes
with them. -/
def read? (bytes : ByteArray) (height : Nat) : (kinds : List Nat) → (fuel : Nat) →
    (width place : Nat) → List (Transform × Nat) → Option (List (Transform × Nat) × Nat × Nat)
  | _, 0, _, _, _ => none
  | kinds, fuel + 1, width, place, found =>
    match Bits.read? bytes place 1 with
    | none => none
    | some (more, place) =>
      if more = 0 then some (found, width, place)
      else
        match Bits.read? bytes place 2 with
        | none => none
        | some (kind, place) =>
          if !kinds.contains kind then none
          else
            match ofKind? bytes kind width height place with
            | none => none
            | some (t, place) =>
              read? bytes height (kinds.erase kind) fuel (t.codedWidth width) place
                ((t, width) :: found)

end Transform

end MediaVault.WebP

import MediaVault.Image.Jpeg.Scan
import MediaVault.Image.Raster

/-!
# JPEG images

A JPEG image is a sequence of marked segments.  Tables come first, then the
size and the components of the image and last the scan.  Images with one scan
of grey or of brightness and two colour differences are decoded; a coarser
component is spread over the area that it covers.
-/

namespace MediaVault.Jpeg

open Bits (PrefixCode)
open Digest (byteAt)

/-- Two bytes as a number, the highest first. -/
def number (bytes : ByteArray) (place : Nat) : Nat :=
  (byteAt bytes place).toNat * 256 + (byteAt bytes (place + 1)).toNat

/-! ## Tables -/

/-- A component as the header describes it: its name, its blocks in a unit and
the table of its steps. -/
structure Part where
  name : Nat
  across : Nat
  down : Nat
  steps : Nat
deriving Repr, DecidableEq

/-- What the header says of the image. -/
structure Header where
  width : Nat
  height : Nat
  parts : List Part
deriving Repr, DecidableEq

/-- What the segments before the scan have defined; of two definitions the
later one, which stands first, counts. -/
structure Definitions where
  header : Option Header := none
  steps : List (Nat × Array Nat) := []
  means : List (Nat × PrefixCode) := []
  waves : List (Nat × PrefixCode) := []
  interval : Nat := 0

/-- Read tables of steps until the segment ends.  Each has 64 numbers of one or
two bytes. -/
def steps? (bytes : ByteArray) : (fuel : Nat) → (place stop : Nat) → Definitions →
    Option Definitions
  | 0, _, _, _ => none
  | fuel + 1, place, stop, d =>
    if place = stop then some d
    else
      let info := (byteAt bytes place).toNat
      let wide := info / 16
      let next := place + 1 + 64 * (wide + 1)
      if 1 < wide ∨ 3 < info % 16 ∨ stop < next then none
      else
        let values := (Array.range 64).map fun i =>
          if wide = 0 then (byteAt bytes (place + 1 + i)).toNat
          else number bytes (place + 1 + 2 * i)
        steps? bytes fuel next stop { d with steps := (info % 16, values) :: d.steps }

/-- Read codes until the segment ends.  Each gives the number of words of every
length and then the symbols. -/
def codes? (bytes : ByteArray) : (fuel : Nat) → (place stop : Nat) → Definitions →
    Option Definitions
  | 0, _, _, _ => none
  | fuel + 1, place, stop, d =>
    if place = stop then some d
    else
      let info := (byteAt bytes place).toNat
      let counts := (List.range 16).map fun i => (byteAt bytes (place + 1 + i)).toNat
      let size := counts.sum
      let next := place + 17 + size
      let symbols := (Array.range size).map fun i => (byteAt bytes (place + 17 + i)).toNat
      if 1 < info / 16 ∨ 3 < info % 16 ∨ 256 < size ∨ stop < next then none
      else if (PrefixCode.slack? counts).isNone then none
      else if info / 16 = 0 then
        if symbols.any (15 < ·) then none
        else codes? bytes fuel next stop
          { d with means := (info % 16, .words counts symbols) :: d.means }
      else codes? bytes fuel next stop
        { d with waves := (info % 16, .words counts symbols) :: d.waves }

/-- The part of the image that a header entry describes. -/
def part? (bytes : ByteArray) (place : Nat) : Option Part :=
  let shape := (byteAt bytes (place + 1)).toNat
  let steps := (byteAt bytes (place + 2)).toNat
  if [1, 2, 4, 8].contains (shape / 16) && [1, 2, 4, 8].contains (shape % 16) && steps < 4 then
    some ⟨(byteAt bytes place).toNat, shape / 16, shape % 16, steps⟩
  else none

/-- Read the header of the image. -/
def header? (bytes : ByteArray) (place stop : Nat) : Option Header := do
  let count := (byteAt bytes (place + 5)).toNat
  let height := number bytes (place + 1)
  let width := number bytes (place + 3)
  if stop ≠ place + 6 + 3 * count ∨ byteAt bytes place ≠ 8 ∨ width = 0 ∨ height = 0 then none
  else if count ≠ 1 ∧ count ≠ 3 then none
  else
    let parts ← (List.range count).mapM fun i => part? bytes (place + 6 + 3 * i)
    pure ⟨width, height, parts⟩

/-! ## Scan -/

/-- The component for an entry of the scan's header. -/
def component? (d : Definitions) (h : Header) (bytes : ByteArray) (place : Nat) :
    Option Component := do
  let part ← h.parts.find? fun p => p.name = (byteAt bytes place).toNat
  let tables := (byteAt bytes (place + 1)).toNat
  pure
    { across := if h.parts.length = 1 then 1 else part.across
      down := if h.parts.length = 1 then 1 else part.down
      steps := ← d.steps.lookup part.steps
      means := ← d.means.lookup (tables / 16)
      waves := ← d.waves.lookup (tables % 16) }

/-- The most that any component has. -/
def most (f : Component → Nat) (components : List Component) : Nat :=
  components.foldl (fun m c => max m (f c)) 1

/-- The decoded components and how they lie. -/
structure Picture where
  width : Nat
  height : Nat
  /-- Units in a row. -/
  units : Nat
  /-- Blocks across and down that the finest component has in a unit. -/
  across : Nat
  down : Nat
  planes : List Plane

/-- Decode the scan whose header lies between two places. -/
def picture? (d : Definitions) (bytes : ByteArray) (place stop : Nat) : Option Picture := do
  let h ← d.header
  let count := (byteAt bytes place).toNat
  if stop ≠ place + 4 + 2 * count ∨ count ≠ h.parts.length then none
  else if !Raster.fits h.width h.height count then none
  else
    let components ← (List.range count).mapM fun i => component? d h bytes (place + 1 + 2 * i)
    let across := most Component.across components
    let down := most Component.down components
    let units := (h.width + 8 * across - 1) / (8 * across)
    let rows := (h.height + 8 * down - 1) / (8 * down)
    let scan := pieces bytes bytes.size stop ByteArray.empty
    let planes ← units? d.interval (units * rows) d.interval 0 scan
      (components.map fun c => { component := c })
    pure ⟨h.width, h.height, units, across, down, planes⟩

/-! ## Segments -/

/-- The place of the next marker: a byte of ones and one that is neither zero
nor ones. -/
def marker? (bytes : ByteArray) : (fuel : Nat) → (place : Nat) → Option Nat
  | 0, _ => none
  | fuel + 1, place =>
    if bytes.size < place + 2 then none
    else
      let next := byteAt bytes (place + 1)
      if byteAt bytes place = 0xFF ∧ next ≠ 0 ∧ next ≠ 0xFF then some place
      else marker? bytes fuel (place + 1)

/-- Read segments up to the scan and decode it. -/
def segments? (bytes : ByteArray) : (fuel : Nat) → (place : Nat) → Definitions → Option Picture
  | 0, _, _ => none
  | fuel + 1, place, d => do
    let place ← marker? bytes bytes.size place
    let kind := (byteAt bytes (place + 1)).toNat
    let length := number bytes (place + 2)
    let start := place + 4
    let stop := place + 2 + length
    if kind = 0xD9 ∨ length < 2 ∨ bytes.size < stop then none
    else
      match kind with
      | 0xC0 | 0xC1 => segments? bytes fuel stop { d with header := ← header? bytes start stop }
      | 0xC4 => segments? bytes fuel stop (← codes? bytes bytes.size start stop d)
      | 0xDB => segments? bytes fuel stop (← steps? bytes bytes.size start stop d)
      | 0xDD =>
        if length = 4 then segments? bytes fuel stop { d with interval := number bytes start }
        else none
      | 0xDA => picture? d bytes start stop
      | _ => if 0xC2 ≤ kind ∧ kind ≤ 0xCF then none else segments? bytes fuel stop d

/-! ## Pixels -/

/-- The sample of a component that covers a pixel. -/
def Picture.sample (p : Picture) (plane : Plane) (x y : Nat) : Nat :=
  let c := plane.component
  let x := x * c.across / p.across
  let y := y * c.down / p.down
  let unit := y / 8 / c.down * p.units + x / 8 / c.across
  let block := unit * (c.across * c.down) + y / 8 % c.down * c.across + x / 8 % c.across
  (byteAt (plane.blocks.getD block ByteArray.empty) (y % 8 * 8 + x % 8)).toNat

/-- Brightness and two colour differences as a colour. -/
def colour (luma blue red : Nat) : Rgb :=
  let cb : Int := blue - 128
  let cr : Int := red - 128
  let base : Int := luma * 16384 + 8191
  ⟨toByte ((base + 22970 * cr) / 16384), toByte ((base - 11700 * cr - 5638 * cb) / 16384),
    toByte ((base + 29032 * cb) / 16384)⟩

/-- The colour of a pixel. -/
def Picture.colourAt (p : Picture) (x y : Nat) : Rgb :=
  match p.planes with
  | [luma, blue, red] => colour (p.sample luma x y) (p.sample blue x y) (p.sample red x y)
  | [grey] => .grey (UInt8.ofNat (p.sample grey x y))
  | _ => .black

/-- Decode a JPEG image. -/
def decode? (bytes : ByteArray) : Option Raster :=
  if bytes.size < 2 ∨ number bytes 0 ≠ 0xFFD8 then none
  else do
    let p ← segments? bytes bytes.size 2 {}
    pure (Raster.generate p.width p.height p.colourAt)

end MediaVault.Jpeg

import MediaVault.Image.Raster
import MediaVault.Image.WebP.Transform

/-!
# WebP images

A WebP image is a container of named chunks.  Images that are coded without
loss are decoded; transparency is dropped.
-/

namespace MediaVault.WebP

open Digest (byteAt)

/-- Four bytes as a number, the lowest first. -/
def number (bytes : ByteArray) (place : Nat) : Nat :=
  (List.range 4).foldr (fun i n => n * 256 + (byteAt bytes (place + i)).toNat) 0

/-- The four letters at a place. -/
def name (bytes : ByteArray) (place : Nat) : ByteArray :=
  bytes.extract place (place + 4)

/-- The container's name and the kind of its content. -/
def isSignature (bytes : ByteArray) : Bool :=
  name bytes 0 == "RIFF".toUTF8 && name bytes 8 == "WEBP".toUTF8

/-- A chunk: its name and where its content lies. -/
structure Chunk where
  name : ByteArray
  start : Nat
  length : Nat

/-- Chunks take an even number of bytes. -/
def Chunk.stop (c : Chunk) : Nat := c.start + c.length + c.length % 2

/-- What a chunk holds. -/
def Chunk.content (bytes : ByteArray) (c : Chunk) : ByteArray :=
  bytes.extract c.start (c.start + c.length)

/-- The chunks from a place on. -/
def chunks (bytes : ByteArray) : (fuel : Nat) → (place : Nat) → List Chunk
  | 0, _ => []
  | fuel + 1, place =>
    if bytes.size < place + 8 then []
    else
      let c : Chunk := ⟨name bytes place, place + 8, number bytes (place + 4)⟩
      c :: chunks bytes fuel c.stop

/-- Decode an image without loss: a signature, the size in twice 14 bits, the
steps that were applied and the pixels. -/
def lossless? (bytes : ByteArray) : Option Raster := do
  let (signature, place) ← Bits.read? bytes 0 8
  let (width, place) ← Bits.read? bytes place 14
  let (height, place) ← Bits.read? bytes place 14
  let (alpha, place) ← Bits.read? bytes place 1
  let (version, place) ← Bits.read? bytes place 3
  let width := width + 1
  let height := height + 1
  if signature ≠ 0x2F ∨ version ≠ 0 ∨ 16384 ≤ width ∨ 16384 ≤ height then none
  else if !Raster.fits width height (3 + alpha) then none
  else
    let (steps, codedWidth, place) ← Transform.read? bytes height [0, 1, 2, 3] 5 width place []
    let (coded, _) ← image? bytes codedWidth height place
    let pixels := steps.foldl (fun pixels step => step.1.undo step.2 height pixels) coded
    pure (Raster.generate width height fun x y =>
      let p := pixels.getD (y * width + x) .zero
      ⟨p.r, p.g, p.b⟩)

/-- The image among the chunks after an extended header.  The header states the
size of the image once more, as three bytes each. -/
def withHeader? (bytes : ByteArray) (head : Chunk) (rest : List Chunk) : Option Raster := do
  let flags := (byteAt bytes head.start).toNat
  let size (place : Nat) : Nat := number bytes place % 0x1000000 + 1
  let image ← rest.find? fun c => c.name == "VP8L".toUTF8
  if head.length < 10 ∨ flags / 2 % 2 = 1 ∨ rest.any (fun c => c.name == "VP8 ".toUTF8) then none
  else
    let r ← lossless? (image.content bytes)
    if r.width = size (head.start + 4) ∧ r.height = size (head.start + 7) then pure r else none

/-- Decode a WebP image. -/
def decode? (bytes : ByteArray) : Option Raster :=
  if !isSignature bytes then none
  else
    match chunks bytes bytes.size 12 with
    | [] => none
    | c :: rest =>
      if c.name == "VP8L".toUTF8 then lossless? (c.content bytes)
      else if c.name == "VP8X".toUTF8 then withHeader? bytes c rest
      else none

end MediaVault.WebP

import MediaVault.ContentType
import MediaVault.Image.Blurhash
import MediaVault.Image.Gif
import MediaVault.Image.Jpeg
import MediaVault.Image.Png
import MediaVault.Image.WebP
import MediaVault.Object.Metadata

/-!
# Attributes of images

An image is decoded as the format that its content type declares.  Content
types without a format of their own leave the decision to the first bytes.
Whatever cannot be decoded has no attributes; that is never an error.
-/

namespace MediaVault

namespace ImageFormat

/-- The format that the first bytes announce. -/
def sniff? (bytes : ByteArray) : Option ImageFormat :=
  if bytes.extract 0 8 == Png.signature then some .png
  else if bytes.extract 0 3 == [0xFF, 0xD8, 0xFF].toByteArray then some .jpeg
  else if Gif.isSignature bytes then some .gif
  else if WebP.isSignature bytes then some .webP
  else none

/-- The format to decode an upload as. -/
def choose? (contentType : String) (bytes : ByteArray) : Option ImageFormat :=
  (ofContentType? contentType).or (sniff? bytes)

/-- Decode an image. -/
def decode? (bytes : ByteArray) : ImageFormat → Option Raster
  | jpeg => Jpeg.decode? bytes
  | png => Png.decode? bytes
  | webP => WebP.decode? bytes
  | gif => Gif.decode? bytes

end ImageFormat

namespace ImageAttributes

/-- Waves across and down in the placeholder hash of an upload. -/
def grid : Nat × Nat := (4, 3)

/-- The attributes of a decoded image. -/
def ofRaster? (image : Raster) : Option ImageAttributes :=
  (Blurhash.ofRaster? grid.1 grid.2 image).map fun hash =>
    ⟨hash, UInt32.ofNat image.width, UInt32.ofNat image.height⟩

/-- The attributes of an upload, when it is an image that can be decoded. -/
def extract? (contentType : String) (bytes : ByteArray) : Option ImageAttributes := do
  let format ← ImageFormat.choose? contentType bytes
  ofRaster? (← format.decode? bytes)

end ImageAttributes

end MediaVault

import MediaVault.Text.Blank
import MediaVault.Text.Letters

/-!
# Content types

Decisions about a content type look at its essence only: the part before the
first semicolon, trimmed and in lower case.  Parameters and spelling never
matter.
-/

namespace MediaVault

namespace ContentType

/-- Recorded when an upload names no content type. -/
def fallback : String := "application/octet-stream"

/-- The essence, as characters. -/
def essenceChars (s : List Char) : List Char :=
  Text.lowerChars (Text.trimChars (s.takeWhile (· != ';')))

/-- The part before the first semicolon, trimmed and in lower case. -/
def essence (contentType : String) : String :=
  String.ofList (essenceChars contentType.toList)

/-- Any subtype of `image`. -/
def isImage (contentType : String) : Bool :=
  Text.startsWith "image/" (essence contentType)

/-- Documents that browsers show in place. -/
def isPdf (contentType : String) : Bool :=
  essence contentType == "application/pdf"

end ContentType

/-- The raster formats that can be decoded. -/
inductive ImageFormat where
  | jpeg
  | png
  | webP
  | gif
deriving Repr, DecidableEq

namespace ImageFormat

/-- The essences with a format of their own. -/
def registry : List (String × ImageFormat) :=
  [("image/jpeg", .jpeg), ("image/jpg", .jpeg), ("image/pjpeg", .jpeg), ("image/png", .png),
    ("image/webp", .webP), ("image/gif", .gif)]

/-- The format that a content type declares. -/
def ofContentType? (contentType : String) : Option ImageFormat :=
  let essence := ContentType.essence contentType
  (registry.find? (·.1 == essence)).map (·.2)

end ImageFormat

end MediaVault

import Std.Data.TreeMap
import MediaVault.Text.Blank
import MediaVault.Text.Letters
import MediaVault.Text.Numeral

/-!
# User metadata

Stores keep a small map of texts beside every object.  The attributes derived
from an image travel in three of its entries.  Stores differ in how they spell
the names, so looking one up ignores letter case; the first name in byte order
wins.
-/

namespace MediaVault

/-- Named texts, in the byte order of their names. -/
abbrev UserMetadata := Std.TreeMap String String

namespace UserMetadata

/-- The value of the first entry whose name is `name` up to letter case. -/
def lookup? (entries : UserMetadata) (name : String) : Option String :=
  (entries.toList.find? fun entry => Text.sameIgnoringCase entry.1 name).map (·.2)

/-- The entries under lower-case names; of names that fall together the last
one stays. -/
def lowerNames (entries : UserMetadata) : UserMetadata :=
  Std.TreeMap.ofList (entries.toList.map fun entry => (Text.lower entry.1, entry.2)) compare

end UserMetadata

/-- What is derived from an image when it is stored: a placeholder hash and the
size in pixels. -/
structure ImageAttributes where
  blurhash : String
  width : UInt32
  height : UInt32
deriving Repr, DecidableEq, Inhabited

namespace ImageAttributes

/-- The entry for the placeholder hash. -/
def blurhashName : String := "x-blurhash"

/-- The entry for the width. -/
def widthName : String := "x-width"

/-- The entry for the height. -/
def heightName : String := "x-height"

/-- The three entries that carry the attributes. -/
def toUserMetadata (a : ImageAttributes) : UserMetadata :=
  Std.TreeMap.ofList
    [(blurhashName, a.blurhash), (widthName, toString a.width.toNat),
      (heightName, toString a.height.toNat)] compare

/-- A dimension that is missing or malformed reads as zero. -/
def dimension (entries : UserMetadata) (name : String) : UInt32 :=
  match entries.lookup? name with
  | none => 0
  | some value =>
    match Text.readNatural (Text.maxOfBits 32) (Text.trimChars value.toList) with
    | .ok n => UInt32.ofNat n
    | .error _ => 0

/-- Read the attributes back; what is missing reads as empty or zero. -/
def ofUserMetadata (entries : UserMetadata) : ImageAttributes :=
  { blurhash := (entries.lookup? blurhashName).getD ""
    width := dimension entries widthName
    height := dimension entries heightName }

end ImageAttributes

end MediaVault

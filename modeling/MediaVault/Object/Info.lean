import MediaVault.Json
import MediaVault.Object.Key
import MediaVault.Object.Metadata
import MediaVault.Time.Timestamp

/-!
# Descriptions of stored objects

`ObjectInfo` is what a store knows about one object apart from its bytes;
`ObjectSummary` is the shorter form found in listings.
-/

namespace MediaVault

/-- A store's description of one object. -/
structure ObjectInfo where
  key : String
  contentType : String
  size : Int
  /-- Opaque tag of the content, without quotes. -/
  etag : String
  lastModified : Timestamp
  cacheControl : Option String
  userMetadata : UserMetadata
deriving Inhabited

namespace ObjectInfo

/-- The last component of the key. -/
def fileName (info : ObjectInfo) : String :=
  Resource.fileNameOf info.key

/-- The attributes derived from an image; empty for other objects. -/
def image (info : ObjectInfo) : ImageAttributes :=
  ImageAttributes.ofUserMetadata info.userMetadata

/-- The JSON form. -/
def toJson (info : ObjectInfo) : Json :=
  .object
    [("key", .text info.key), ("content_type", .text info.contentType), ("size", .int info.size),
      ("etag", .text info.etag), ("last_modified", .text info.lastModified.iso),
      ("cache_control", Json.ofText? info.cacheControl),
      ("user_metadata", Json.ofTexts info.userMetadata.toList)]

end ObjectInfo

/-- One entry of a listing. -/
structure ObjectSummary where
  key : String
  size : Int
  etag : String
  lastModified : Timestamp
deriving Repr, DecidableEq, Inhabited

namespace ObjectSummary

/-- The last component of the key. -/
def fileName (summary : ObjectSummary) : String :=
  Resource.fileNameOf summary.key

/-- The JSON form. -/
def toJson (summary : ObjectSummary) : Json :=
  .object
    [("key", .text summary.key), ("size", .int summary.size), ("etag", .text summary.etag),
      ("last_modified", .text summary.lastModified.iso)]

end ObjectSummary

/-- The part of a description that listings show. -/
def ObjectInfo.summary (info : ObjectInfo) : ObjectSummary :=
  { key := info.key, size := info.size, etag := info.etag, lastModified := info.lastModified }

end MediaVault

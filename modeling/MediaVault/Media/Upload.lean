import MediaVault.Store.Basic

/-!
# Results of the media service

What an upload reports, what is told about one object and what a listing
shows, each with its JSON form.
-/

namespace MediaVault

/-- Why an upload failed. -/
inductive UploadError where
  /-- The payload could not be read. -/
  | read (reason : String)
  /-- The store failed or refused the write. -/
  | store (key : String) (source : StorageError)
deriving Repr, DecidableEq

namespace UploadError

/-- The wording of an upload error. -/
def message : UploadError → String
  | read reason => "invalid upload payload: " ++ reason
  | store key source => "upload failed for `" ++ key ++ "`: " ++ source.message

end UploadError

/-- The result of a successful upload. -/
structure UploadedObject where
  bucket : String
  object : String
  fileName : String
  etag : String
  size : Int
  contentType : String
deriving Repr, DecidableEq

namespace UploadedObject

/-- The JSON form. -/
def toJson (u : UploadedObject) : Json :=
  .object
    [("bucket", .text u.bucket), ("object", .text u.object), ("fileName", .text u.fileName),
      ("etag", .text u.etag), ("size", .int u.size), ("contentType", .text u.contentType)]

end UploadedObject

/-- A description of an object with the attributes of its image and a delivery
URL, which is empty when none could be made. -/
structure ObjectMeta where
  object : String
  etag : String
  size : Int
  contentType : String
  lastModified : Timestamp
  cacheControl : String
  image : ImageAttributes
  url : String
deriving Repr, DecidableEq

namespace ObjectMeta

/-- The description with the given URL. -/
def ofInfo (info : ObjectInfo) (url : String) : ObjectMeta :=
  { object := info.key, etag := info.etag, size := info.size, contentType := info.contentType
    lastModified := info.lastModified, cacheControl := info.cacheControl.getD ""
    image := info.image, url := url }

/-- The JSON form. -/
def toJson (o : ObjectMeta) : Json :=
  .object
    [("object", .text o.object), ("etag", .text o.etag), ("size", .int o.size),
      ("contentType", .text o.contentType), ("lastModified", .text o.lastModified.iso),
      ("cacheControl", .text o.cacheControl), ("blurhash", .text o.image.blurhash),
      ("width", .int o.image.width.toNat), ("height", .int o.image.height.toNat),
      ("url", .text o.url)]

end ObjectMeta

/-- A listed object. -/
structure ListedFile where
  object : String
  fileName : String
  size : Int
  etag : String
  lastModified : Timestamp
deriving Repr, DecidableEq

namespace ListedFile

/-- The entry for a summary. -/
def ofSummary (summary : ObjectSummary) : ListedFile :=
  { object := summary.key, fileName := summary.fileName, size := summary.size
    etag := summary.etag, lastModified := summary.lastModified }

/-- The JSON form. -/
def toJson (file : ListedFile) : Json :=
  .object
    [("object", .text file.object), ("fileName", .text file.fileName), ("size", .int file.size),
      ("etag", .text file.etag), ("lastModified", .text file.lastModified.iso)]

end ListedFile

end MediaVault

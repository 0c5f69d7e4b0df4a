import MediaVault.Http.Multipart
import MediaVault.Http.Query
import MediaVault.Media.Service

/-!
# Objects as responses

The headers that describe an object, and the JSON answers about objects.  A
header whose value could not be sent is left out, so stored attributes can
never inject one.
-/

namespace MediaVault.ObjectResponse

/-- A header, when its value may be sent. -/
def header? (name : String) (value : Option String) : List (String × String) :=
  match value.bind HeaderValue.ofText? with
  | some text => [(name, text)]
  | none => []

/-- A non-empty entry of the user metadata. -/
def metadataValue? (info : ObjectInfo) (name : String) : Option String :=
  (info.userMetadata.lookup? name).filter fun value => !value.toList.isEmpty

/-- The content type that is sent. -/
def contentType (info : ObjectInfo) : String :=
  (HeaderValue.ofText? info.contentType).getD ContentType.fallback

/-- The headers that describe an object. -/
def headers (info : ObjectInfo) : List (String × String) :=
  [("content-type", contentType info), ("content-length", toString info.size.toNat)] ++
    header? "etag" (some ("\"" ++ info.etag ++ "\"")) ++
    header? "last-modified" (some info.lastModified.httpDate) ++
    header? "cache-control" info.cacheControl ++
    header? "x-blurhash" (metadataValue? info ImageAttributes.blurhashName) ++
    header? "x-image-width" (metadataValue? info ImageAttributes.widthName) ++
    header? "x-image-height" (metadataValue? info ImageAttributes.heightName) ++
    if ContentType.isPdf info.contentType then [("content-disposition", "inline")] else []

/-- An object with its bytes. -/
def full (object : StoredObject) : Response :=
  { status := 200, headers := headers object.info, content := .bytes object.bytes }

/-- The headers of an object alone. -/
def headOnly (info : ObjectInfo) : Response :=
  { status := 200, headers := headers info }

/-- A delivery URL and the seconds for which it works. -/
def deliveryUrl (delivery : DeliveryUrl) : Response :=
  Response.json 200
    (.object [("url", .text delivery.url), ("expiresIn", .int delivery.expiresIn.seconds)])

/-- A deletion that was done. -/
def deleted (key : String) : Response :=
  Response.json 200 (.object [("message", .text "deleted"), ("object", .text key)])

/-- A listing. -/
def listing (files : List ListedFile) : Response :=
  Response.json 200 (.object [("files", .list (files.map ListedFile.toJson))])

end MediaVault.ObjectResponse

import MediaVault.Object.Uuid
import MediaVault.Text.Letters

/-!
# Object keys

Objects live in two namespaces:

- `posts/{post}/{file}` holds the attachments of a post, each under a fresh name;
- `profiles/{user}/profile` holds one image per user.

Every segment that a client supplies is checked before it becomes part of a
key, so no key leaves its namespace.
-/

namespace MediaVault

namespace Segment

/-- The characters that separate path components on some system. -/
def isSeparator (c : Char) : Bool :=
  c == '/' || c == '\\'

/-- A segment that stays where it is put: not empty, not a relative step, no
separator and no control character. -/
def isSafe (segment : String) : Bool :=
  !segment.toList.isEmpty && segment != "." && segment != ".." &&
    segment.toList.all fun c => !isSeparator c && !Text.isAsciiControl c

/-- The first segment that is not safe. -/
def firstUnsafe? (segments : List String) : Option String :=
  segments.find? fun segment => !isSafe segment

end Segment

namespace FileName

/-- Longest extension that is kept. -/
def maxExtension : Nat := 16

/-- A short, non-empty run of ASCII letters and digits. -/
def isPlainExtension (e : List Char) : Bool :=
  !e.isEmpty && e.length ≤ maxExtension && e.all Text.isAsciiAlphanumeric

/-- What follows the last dot, when something precedes it. -/
def afterLastDot? (base : List Char) : Option (List Char) :=
  match Text.cutAt '.' base.reverse with
  | some (after, before) => if before.isEmpty then none else some after.reverse
  | none => none

/-- The extension of the last path component, when it is a plain one. -/
def extension? (name : String) : Option String :=
  (afterLastDot? (Text.lastPiece Segment.isSeparator name.toList)).bind fun e =>
    if isPlainExtension e then some (String.ofList e) else none

/-- A fresh name that keeps the extension of the client's name. -/
def fresh (id : Uuid) (clientName : String) : String :=
  match extension? clientName with
  | some e => id.text ++ "." ++ e
  | none => id.text

end FileName

/-- Something that owns an object. -/
inductive Resource where
  | postFile (postId fileName : String)
  | profileImage (userId : String)
deriving Repr, DecidableEq

namespace Resource

/-- The key of the resource's object. -/
def key : Resource → String
  | .postFile postId fileName => "posts/" ++ postId ++ "/" ++ fileName
  | .profileImage userId => "profiles/" ++ userId ++ "/profile"

/-- A new attachment of a post, named after the client's file. -/
def attachment (id : Uuid) (postId clientName : String) : Resource :=
  .postFile postId (FileName.fresh id clientName)

/-- The segments of the key that clients supply. -/
def segments : Resource → List String
  | .postFile postId fileName => [postId, fileName]
  | .profileImage userId => [userId]

/-- What the keys of all attachments of a post start with. -/
def postPrefix (postId : String) : String :=
  "posts/" ++ postId ++ "/"

/-- The last component of a key. -/
def fileNameOf (key : String) : String :=
  String.ofList (Text.lastPiece (· == '/') key.toList)

end Resource

end MediaVault

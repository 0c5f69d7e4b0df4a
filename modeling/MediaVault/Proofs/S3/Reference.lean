import MediaVault.Proofs.S3.Bucket

/-!
# A service over a bucket

The plainest service that behaves: it looks into the bucket that its exchanges
have made, hands out the same tag for everything, and shows one object a page.
-/

namespace MediaVault.S3

namespace Kept

/-- What is told about an object. -/
def reply (kept : Kept) : ObjectReply :=
  { contentType := some kept.attributes.contentType
    length := some kept.body.size
    etag := some "\"tag\""
    cacheControl := kept.attributes.cacheControl
    userMetadata := kept.attributes.userMetadata.map fun entry => (Text.lower entry.1, entry.2) }

theorem tells_reply (kept : Kept) : kept.reply.Tells kept where
  contentType := rfl
  length := rfl
  cacheControl := rfl
  userMetadata := .refl _

end Kept

namespace ListPage

/-- The entry of an object. -/
def entryOf (object : String × Kept) : ListEntry :=
  { key := some object.1, size := some object.2.body.size }

/-- The page that shows the first object, with its key as the token for the rest. -/
def firstOf : List (String × Kept) → ListPage
  | [] => {}
  | [object] => { entries := [entryOf object] }
  | object :: _ => { truncated := true, nextToken := some object.1, entries := [entryOf object] }

theorem shows_firstOf (remaining : List (String × Kept)) : (firstOf remaining).Shows remaining := by
  have told (object : String × Kept) : List.Forall₂ ListEntry.Tells [entryOf object] [object] :=
    .cons ⟨rfl, rfl⟩ .nil
  match remaining with
  | [] => exact ⟨[], [], rfl, .nil, rfl⟩
  | [object] => exact ⟨[object], [], rfl, told object, rfl⟩
  | object :: other :: others =>
    exact ⟨[object], other :: others, rfl, told object, List.cons_ne_nil _ _, object.1, rfl⟩

end ListPage

namespace Bucket

/-- The answer to a look-up. -/
def lookUp {α : Type} (bucket : Bucket) (key : String) (tell : Kept → α) : Except CallError α :=
  match bucket.objects[key]? with
  | some kept => .ok (tell kept)
  | none => .error (.refused 404 (some "NoSuchKey") "no such key")

/-- The answer to a call; a new upload is named `fresh`. -/
def answer (bucket : Bucket) (fresh : String) : (call : Call) → Except CallError call.Reply
  | .headBucket | .createBucket _ | .abortUpload _ _ | .deleteObject _ => .ok ()
  | .putObject _ _ _ => .ok (some "\"tag\"")
  | .createUpload _ _ => .ok (some fresh)
  | .uploadPart key upload _ _ | .completeUpload key upload _ =>
    match bucket.uploads key upload with
    | some _ => .ok (some "\"tag\"")
    | none => .error (.refused 404 (some "NoSuchUpload") "no such upload")
  | .getObject key => bucket.lookUp key fun kept => (kept.reply, kept.body)
  | .headObject key => bucket.lookUp key Kept.reply
  | .listObjects lead token =>
    match bucket.position? token with
    | some mark => .ok (ListPage.firstOf (bucket.remaining lead mark))
    | none => .error (.refused 400 (some "InvalidArgument") "unknown token")

theorem allows_answer (bucket : Bucket) (fresh : String) (call : Call) :
    bucket.Allows call (bucket.answer fresh call) := by
  cases call with
  | headBucket => exact rfl
  | createBucket location => trivial
  | putObject key attributes body => exact fun _ => ⟨_, rfl⟩
  | createUpload key attributes => exact fun _ => ⟨_, rfl⟩
  | uploadPart key upload number body =>
    intro opened found
    exact ⟨some "\"tag\"", by simp only [answer, found]⟩
  | completeUpload key upload listed =>
    intro opened found _
    exact ⟨some "\"tag\"", by simp only [answer, found]⟩
  | abortUpload key upload => trivial
  | getObject key =>
    intro _
    simp only [answer, lookUp]
    cases bucket.objects[key]? with
    | some kept => exact ⟨kept.reply, kept.tells_reply, rfl⟩
    | none => exact ⟨_, _, rfl⟩
  | headObject key =>
    intro _
    simp only [answer, lookUp]
    cases bucket.objects[key]? with
    | some kept => exact ⟨kept.reply, kept.tells_reply, rfl⟩
    | none => exact ⟨_, _, rfl⟩
  | deleteObject key => exact fun _ => rfl
  | listObjects lead token =>
    intro mark starts
    exact ⟨_, ListPage.shows_firstOf _, by simp only [answer, starts]⟩

end Bucket

/-- The service that answers for the bucket made so far. -/
def Service.reference : Service := fun earlier call =>
  (Bucket.after earlier).answer (toString earlier.length) call

theorem Service.reference_behaves : Service.reference.Behaves :=
  fun _ _ _ => Bucket.allows_answer _ _ _

end MediaVault.S3

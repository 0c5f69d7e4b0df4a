import MediaVault.Proofs.Api.Gateway
import MediaVault.Proofs.Media.Blame

/-!
# What the client is told of a failed upload

A payload that breaks off is the client's fault and answered with 400; everything that
the store has to say is answered with 500, even that an object is missing.  This
module joins the two backends with the answers.
-/

namespace MediaVault

namespace Gateway

/-- A failed upload of the selected part is what the handler reports. -/
theorem uploadField_reports {σ : Type} {gateway : Gateway (StateM σ)} {names : List String}
    {separator : String} {body : RequestBody} {keyFor : String → String}
    {selected : Multipart.Selected} {before after : σ} {error : UploadError}
    (chosen : gateway.selectPart names separator body = .ok selected)
    (failed : Ends (gateway.media.upload (keyFor (selected.head.fileName.getD ""))
      selected.head.contentType selected.content) before (.error error) after) :
    Ends (gateway.uploadField names separator body keyFor) before
      (.error (.error (ApiError.ofUpload error))) after := by
  rw [uploadField, chosen]
  exact ends_mapError_iff.mpr ⟨_, failed, rfl⟩

end Gateway

namespace Site

open S3 (Exchange Service)

/-- What the calls of an upload tell about a refusal is what its put tells. -/
theorem refusalOf_remote {site : Site} {service : Service} {region : String} {maxPages : Nat}
    {key : String} {contentType : Option String} {body : List Chunk} {log after : List Exchange}
    {out : Except UploadError UploadedObject}
    (ended : Ends ((site.remote service region maxPages).upload key contentType body) log out
      after) :
    ∃ calls, after = log ++ calls ∧
      (site.remote service region maxPages).refusalOf
        (fun log payload options => S3.refusal? (((S3.Store.put (service.client region site.bucket)
          key payload options).run.run log).2.drop log.length)) log contentType body =
        S3.refusal? calls := by
  rw [MediaService.refusalOf]
  cases prepared : MediaService.prepare (site.remote service region maxPages).extract
      (MediaService.effectiveContentType contentType) body with
  | error reason =>
    obtain ⟨-, rfl⟩ := (MediaService.upload_ends_of_unreadable _ prepared).mp ended
    exact ⟨[], by simp, rfl⟩
  | ok handed =>
    obtain ⟨payload, metadata⟩ := handed
    obtain ⟨answer, put, -⟩ := (MediaService.upload_ends_iff _ prepared).mp ended
    obtain ⟨calls, rfl, -⟩ := S3.put_settled put
    refine ⟨calls, rfl, ?_⟩
    have grown : ((S3.Store.put (service.client region site.bucket) key payload
        (MediaService.optionsOf contentType metadata)).run.run log).2 = log ++ calls :=
      congrArg Prod.snd put
    dsimp only
    rw [grown, List.drop_left]

/-- Over either store, an upload succeeds only if its payload does not break off.  When it
fails, it blames the payload exactly if it got to where that breaks off, and the store
exactly if the store refused it, which it does before.  An image that breaks off before
5 MiB were exceeded is blamed without asking the store.  Over HTTP, blaming the payload is
answered with 400 and blaming the store with 500. -/
theorem uploads_blame_rightly (site : Site) (key : String) (contentType : Option String)
    (body : List Chunk) :
    (∀ (faults : Faults) (now : Timestamp) (before : Contents),
      let media := site.media faults now
      let obstacle := fun contents (_ : Payload) (_ : PutOptions) =>
        site.obstacle? faults .put key contents
      media.Blames before key contentType body (media.refusalOf obstacle before contentType body)
        ((media.upload key contentType body).run.run before).1) ∧
    (∀ (service : Service) (region : String) (maxPages : Nat) (log : List Exchange),
      let remote := site.remote service region maxPages
      let run := (remote.upload key contentType body).run.run log
      ∃ calls, run.2 = log ++ calls ∧
        remote.Blames log key contentType body (S3.refusal? calls) run.1) ∧
    (∀ (m : Type → Type) [Monad m] (media : MediaService m) (reason : String),
      ContentType.isImage (MediaService.effectiveContentType contentType) = true →
      Chunk.failure? body = some reason →
      (Bytes.join (Chunk.pieces body)).size ≤ 5 * 1024 * 1024 →
      media.upload key contentType body = throw (.read reason)) ∧
    ∀ (σ : Type) (gateway : Gateway (StateM σ)) (names : List String) (separator : String)
      (form : RequestBody) (keyFor : String → String) (selected : Multipart.Selected)
      (before after : σ) (error : UploadError),
      gateway.selectPart names separator form = .ok selected →
      Ends (gateway.media.upload (keyFor (selected.head.fileName.getD ""))
        selected.head.contentType selected.content) before (.error error) after →
      ∃ refusal, Ends (gateway.uploadField names separator form keyFor) before (.error refusal)
          after ∧
        (Gateway.settle (.error refusal)).status =
          match error with
          | .read _ => 400
          | .store _ _ => 500 := by
  refine ⟨fun faults now before => ?_, fun service region maxPages log => ?_,
    fun m _ media reason image failed small => ?_,
    fun σ gateway names separator form keyFor selected before after error chosen failed => ?_⟩
  · exact MediaService.blames (MemoryStore.explains site.bucket faults now key) (ends_self _ before)
  · have ended := ends_self ((site.remote service region maxPages).upload key contentType body) log
    obtain ⟨calls, grown, refused⟩ := refusalOf_remote ended
    refine ⟨calls, grown, ?_⟩
    rw [← refused]
    exact MediaService.blames (S3.Store.explains service region site.bucket key maxPages) ended
  · exact MediaService.upload_of_broken_image media key image failed small
  · refine ⟨_, Gateway.uploadField_reports chosen failed, ?_⟩
    cases error <;> rfl

/-- The file in a form breaks off, but the bucket is missing, and that is what the store
says.  An image that breaks off is blamed even by a service that refuses everything. -/
theorem uploads_blame_rightly_without_bucket :
    let site : Site :=
      { bucket := "media", cdn := none, publicSigner := none, signer := fun key _ => .ok key
        extract := fun _ _ => none, maxUploadBytes := 1000 }
    let gateway := site.gateway (fun _ => none) default fun _ _ => .silent
    let form : RequestBody :=
      { bytes := "--B\r\nContent-Disposition: form-data; name=\"file\"\r\n\r\nabc".toUTF8 }
    let key := "posts/7/a"
    let broken : List Chunk := [.data ⟨#[1]⟩, .failed "connection reset"]
    let refusing : Service := fun _ _ => .error (.undeliverable "no route")
    (∃ selected refusal, gateway.selectPart Gateway.attachmentFields "B" form = .ok selected ∧
      Chunk.failure? selected.content = some Multipart.brokenPart ∧
      ((gateway.media.upload key none selected.content).run.run {}).1 =
        .error (.store key (.bucketNotFound "media")) ∧
      Ends (gateway.uploadField Gateway.attachmentFields "B" form fun _ => key) {}
        (.error refusal) {} ∧
      (Gateway.settle (.error refusal)).status = 500) ∧
    Ends ((site.remote refusing "us-east-1" 1).upload key (some "image/png") broken) []
      (.error (.read "connection reset")) [] := by
  intro site gateway form key broken refusing
  have parsed : (gateway.selectPart Gateway.attachmentFields "B" form).toOption.map
      (fun selected => (selected.head.contentType, Chunk.failure? selected.content)) =
        some (none, some Multipart.brokenPart) := by decide +kernel
  obtain ⟨selected, chosen, told⟩ := Option.map_eq_some_iff.mp parsed
  obtain ⟨typed, failed⟩ := Prod.mk.inj told
  replace chosen : gateway.selectPart Gateway.attachmentFields "B" form = .ok selected := by
    cases read : gateway.selectPart Gateway.attachmentFields "B" form with
    | error error => simp [read, Except.toOption] at chosen
    | ok other => simpa [read, Except.toOption] using chosen
  obtain ⟨in_memory, -, -, over_http⟩ := uploads_blame_rightly site key none selected.content
  have blamed := ((in_memory (fun _ => none) default {}).store_iff key
    (.bucketNotFound "media")).mpr ⟨rfl, rfl⟩
  have ended : Ends (gateway.media.upload key none selected.content) {}
      (.error (.store key (.bucketNotFound "media"))) {} := by
    have whole := ends_self (gateway.media.upload key none selected.content) {}
    rw [show ((gateway.media.upload key none selected.content).run.run {}).1 = _ from blamed]
      at whole
    rcases Site.upload_ends whole with ⟨_, _, _, ⟨⟩, _⟩ | ⟨same, -⟩
    exact same ▸ whole
  obtain ⟨refusal, refused, status⟩ := over_http Contents gateway _ "B" form (fun _ => key)
    selected {} {} _ chosen (typed ▸ ended)
  have unread := (uploads_blame_rightly site key (some "image/png") broken).2.2.1 _
    (site.remote refusing "us-east-1" 1) "connection reset" (by decide) rfl (by decide)
  refine ⟨⟨selected, refusal, chosen, failed, blamed, refused, status⟩, ?_⟩
  rw [unread]
  exact ends_throw_iff.mpr ⟨rfl, rfl⟩

end Site

end MediaVault

import MediaVault.Proofs.Media.Agreement
import MediaVault.Proofs.S3.Refusal

/-!
# Who is to blame for a failed upload

An upload fails because its payload breaks off or because the store refuses it, and
the service says which.  What it needs to know of a store is in `Explains`: a refused
put has not read its stream up to where it breaks off, and every other put ends as
its payload does.
-/

namespace MediaVault

/-! ## Reading the head -/

namespace Spooled

/-- A payload that breaks off below the limit is not handed over at all. -/
theorem read_of_failure {limit : Nat} {head : ByteArray} {body : List Chunk} {reason : String}
    (failed : Chunk.failure? body = some reason)
    (small : head.size + (Bytes.join (Chunk.pieces body)).size ≤ limit) :
    read limit head body = .unreadable reason := by
  induction body generalizing head with
  | nil => cases failed
  | cons chunk rest ih =>
    cases chunk with
    | failed other =>
      obtain rfl : other = reason := Option.some.inj failed
      rfl
    | data bytes =>
      rw [Chunk.pieces, Bytes.join_cons, ByteArray.size_append] at small
      have fits : ¬ limit < (head ++ bytes).size := by
        rw [ByteArray.size_append]
        omega
      rw [read, if_neg fits]
      refine ih failed ?_
      rw [ByteArray.size_append]
      omega

/-- Once the limit was passed, nothing more was read. -/
theorem read_of_oversized {limit : Nat} {head seen : ByteArray} {body tail : List Chunk}
    (passed : read limit head body = .oversized seen tail) (rest : List Chunk) :
    read limit head ((Chunk.pieces body).map .data ++ rest) =
      .oversized seen ((Chunk.pieces tail).map .data ++ rest) := by
  induction body generalizing head with
  | nil => cases passed
  | cons chunk others ih =>
    cases chunk with
    | failed reason => cases passed
    | data bytes =>
      rw [read] at passed
      rw [Chunk.pieces, List.map_cons, List.cons_append, read]
      split at passed
      next large =>
        obtain ⟨rfl, rfl⟩ := Spooled.oversized.inj passed
        rw [if_pos large]
      next small =>
        rw [if_neg small]
        exact ih passed

end Spooled

namespace MediaService

/-- A payload handed over as a stream is handed over in the same way whatever follows
its pieces. -/
theorem prepare_of_streamed {extract : String → ByteArray → Option ImageAttributes}
    {contentType : String} {body chunks : List Chunk} {metadata : UserMetadata}
    (prepared : prepare extract contentType body = .ok (.streamed chunks, metadata))
    (rest : List Chunk) :
    prepare extract contentType ((Chunk.pieces body).map .data ++ rest) =
      .ok (.streamed ((Chunk.pieces chunks).map .data ++ rest), metadata) := by
  rw [prepare] at prepared ⊢
  split at prepared
  next image =>
    rw [if_pos image]
    split at prepared
    · cases prepared
    next head tail passed =>
      obtain ⟨⟨rfl⟩, rfl⟩ := Prod.mk.inj (Except.ok.inj prepared)
      rw [Spooled.read_of_oversized passed]
      rfl
    · cases prepared
  next other =>
    obtain ⟨⟨rfl⟩, rfl⟩ := Prod.mk.inj (Except.ok.inj prepared)
    rw [if_neg other]

/-- An image that breaks off before 5 MiB were exceeded does not get to the store. -/
theorem upload_of_broken_image {m : Type → Type} [Monad m] (media : MediaService m) (key : String)
    {contentType : Option String} {body : List Chunk} {reason : String}
    (image : ContentType.isImage (effectiveContentType contentType) = true)
    (failed : Chunk.failure? body = some reason)
    (small : (Bytes.join (Chunk.pieces body)).size ≤ 5 * 1024 * 1024) :
    media.upload key contentType body = throw (.read reason) := by
  have unread : Spooled.read metadataSizeLimit ByteArray.empty body = .unreadable reason :=
    Spooled.read_of_failure failed (by rwa [ByteArray.size_empty, Nat.zero_add])
  have unprepared : prepare media.extract (effectiveContentType contentType) body =
      .error reason := by
    rw [prepare, if_pos image, unread]
  simp only [upload, unprepared]

end MediaService

/-! ## What a store tells -/

/-- The store refuses a put for a reason of its own, before it has read where the stream
breaks off; a put that it does not refuse ends as the payload can be read. -/
structure ObjectStore.Explains {σ : Type} (store : ObjectStore (StateM σ)) (key : String)
    (refusal? : σ → Payload → PutOptions → Option StorageError) : Prop where
  settles : ∀ {before after payload options out},
    Ends (store.put key payload options) before out after →
    payload.Settles (refusal? before payload options) out
  own : ∀ {before payload options source}, refusal? before payload options = some source →
    ∀ text, source ≠ .io text
  early : ∀ {before after chunks options reason source},
    Chunk.failure? chunks = some reason → (∀ text, source ≠ .io text) →
    Ends (store.put key (.streamed chunks) options) before (.error source) after → ∀ rest,
    Ends (store.put key (.streamed ((Chunk.pieces chunks).map .data ++ rest)) options) before
      (.error source) after

theorem MemoryStore.explains (bucket : String) (faults : Faults) (now : Timestamp) (key : String) :
    (faulty bucket faults now).Explains key fun before _ _ =>
      obstacle? bucket faults .put key before where
  settles {before after payload options out} ended := by
    have put := put_ends_iff.mp ended
    rw [Payload.Settles.eq_def]
    cases hindered : obstacle? bucket faults .put key before with
    | some source =>
      rw [hindered] at put
      exact put.1
    | none =>
      rw [hindered] at put
      cases read : payload.collect with
      | error reason =>
        rw [read] at put
        exact put.1
      | ok bytes =>
        rw [read] at put
        exact ⟨_, put.1⟩
  own hindered text := by
    rintro rfl
    rw [obstacle?] at hindered
    split at hindered
    · cases hindered
    · split at hindered <;> cases hindered
  early failed own ended rest := by
    have put := put_ends_iff.mp ended
    split at put
    next hindered =>
      refine put_ends_iff.mpr ?_
      rw [hindered]
      exact put
    next => exact absurd (Except.error.inj put.1) (own _)
    next => cases put.1

theorem S3.Store.explains (service : S3.Service) (region bucket key : String) (maxPages : Nat) :
    (S3.store (service.client region bucket) maxPages).Explains key fun log payload options =>
      S3.refusal? (((put (service.client region bucket) key payload options).run.run log).2.drop
        log.length) where
  settles := by
    intro before after payload options out ended
    obtain ⟨calls, rfl, settled⟩ := S3.put_settled ended
    have grown : ((put (service.client region bucket) key payload options).run.run before).2 =
        before ++ calls := congrArg Prod.snd ended
    rwa [grown, List.drop_left]
  own refused text := by
    obtain ⟨_, _, _, rfl⟩ := S3.refusal?_eq_backend refused
    nofun
  early failed own ended rest := put_streamed_early failed own ended rest

/-- A put reports its payload as unreadable only where the payload breaks off: the error of
a refusal never has this form, so the service may tell the two apart by the error. -/
theorem ObjectStore.Explains.unreadable {σ : Type} {store : ObjectStore (StateM σ)} {key : String}
    {refusal? : σ → Payload → PutOptions → Option StorageError} {before after : σ}
    {payload : Payload} {options : PutOptions} {reason : String}
    (explains : store.Explains key refusal?)
    (ended : Ends (store.put key payload options) before (.error (.io reason)) after) :
    payload.collect = .error reason := by
  have settled := explains.settles ended
  rw [Payload.Settles.eq_def] at settled
  split at settled
  next source _ refused =>
    obtain rfl := Except.error.inj settled
    exact absurd rfl (explains.own refused reason)
  next other _ unread =>
    obtain rfl := StorageError.io.inj (Except.error.inj settled)
    exact unread
  next => obtain ⟨_, ⟨⟩⟩ := settled

/-! ## What the service tells -/

namespace MediaService

variable {σ : Type}

/-- The payload breaks off and the upload gets there: what comes at that place makes a
difference. -/
def Reaches (media : MediaService (StateM σ)) (before : σ) (key : String)
    (contentType : Option String) (body : List Chunk) : Prop :=
  Chunk.failure? body ≠ none ∧
    ¬ ∀ rest, (media.upload key contentType ((Chunk.pieces body).map .data ++ rest)).run.run
      before = (media.upload key contentType body).run.run before

/-- An upload succeeds if nothing fails, and otherwise blames the payload for breaking off
where the upload got to that place, and the store for a refusal of its own.  A store that
refuses does so before the payload breaks off. -/
structure Blames (media : MediaService (StateM σ)) (before : σ) (key : String)
    (contentType : Option String) (body : List Chunk) (refusal : Option StorageError)
    (out : Except UploadError UploadedObject) : Prop where
  ok_iff : (∃ receipt, out = .ok receipt) ↔ Chunk.failure? body = none ∧ refusal = none
  read_iff : ∀ reason, out = .error (.read reason) ↔
    Chunk.failure? body = some reason ∧ media.Reaches before key contentType body
  store_iff : ∀ name source, out = .error (.store name source) ↔
    name = key ∧ refusal = some source
  refused_first : refusal ≠ none → ¬ media.Reaches before key contentType body

/-- Why the store refuses the payload of an upload, if the payload gets to the store. -/
def refusalOf (media : MediaService (StateM σ))
    (refusal? : σ → Payload → PutOptions → Option StorageError) (before : σ)
    (contentType : Option String) (body : List Chunk) : Option StorageError :=
  match prepare media.extract (effectiveContentType contentType) body with
  | .error _ => none
  | .ok (payload, metadata) => refusal? before payload (optionsOf contentType metadata)

/-- How an upload ends, by why the store refused it and where its payload broke off. -/
inductive Settled (key : String) : Option StorageError → Option String →
    Except UploadError UploadedObject → Prop where
  | refused (source : StorageError) (failure : Option String) :
      Settled key (some source) failure (.error (.store key source))
  | broken (reason : String) : Settled key none (some reason) (.error (.read reason))
  | stored (receipt : UploadedObject) : Settled key none none (.ok receipt)

theorem putError_own {source : StorageError} (own : ∀ text, source ≠ .io text) (key : String)
    (payload : Payload) : putError key payload source = .store key source := by
  rw [putError.eq_def]
  split
  next reason => exact absurd rfl (own reason)
  next => rfl

variable {media : MediaService (StateM σ)} {key : String}
  {refusal? : σ → Payload → PutOptions → Option StorageError} {before after : σ}
  {contentType : Option String} {body : List Chunk} {out : Except UploadError UploadedObject}

theorem failure?_of_collect {reason : String} (read : Chunk.collect body = .error reason) :
    Chunk.failure? body = some reason := by
  rw [Chunk.collect_eq] at read
  split at read
  · cases read
  next failed => rw [failed, Except.error.inj read]

/-- The error of an upload is that of the store, or else that of the payload. -/
theorem upload_settled (explains : media.store.Explains key refusal?)
    (ended : Ends (media.upload key contentType body) before out after) :
    Settled key (media.refusalOf refusal? before contentType body) (Chunk.failure? body) out := by
  rw [refusalOf]
  cases prepared : prepare media.extract (effectiveContentType contentType) body with
  | error reason =>
    obtain ⟨rfl, -⟩ := (upload_ends_of_unreadable media prepared).mp ended
    rw [failure?_of_collect (collect_of_prepare_error prepared)]
    exact .broken reason
  | ok handed =>
    obtain ⟨payload, metadata⟩ := handed
    obtain ⟨answer, put, rfl⟩ := (upload_ends_iff media prepared).mp ended
    have settled := explains.settles put
    have same := (prepare_ok prepared).1
    rw [Payload.Settles.eq_def, same, Chunk.collect_eq] at settled
    dsimp only
    cases refused : refusal? before payload (optionsOf contentType metadata) with
    | some source =>
      rw [refused] at settled
      subst settled
      dsimp only
      rw [putError_own (explains.own refused)]
      exact .refused source _
    | none =>
      rw [refused] at settled
      cases failed : Chunk.failure? body with
      | none =>
        rw [failed] at settled
        obtain ⟨outcome, rfl⟩ := settled
        exact .stored _
      | some reason =>
        rw [failed] at settled
        subst settled
        -- Only a stream can break off.
        cases payload with
        | buffered bytes =>
          rw [Chunk.collect_eq, failed] at same
          cases same
        | streamed chunks => exact .broken reason

/-- A store that refuses an upload does not notice what comes where the payload breaks
off. -/
theorem not_reaches_of_refused (explains : media.store.Explains key refusal?)
    (refused : media.refusalOf refusal? before contentType body ≠ none) :
    ¬ media.Reaches before key contentType body := by
  rintro ⟨breaks, reached⟩
  refine reached fun rest => ?_
  obtain ⟨reason, failed⟩ := Option.ne_none_iff_exists'.mp breaks
  obtain ⟨source, refusal⟩ := Option.ne_none_iff_exists'.mp refused
  rw [refusalOf] at refusal
  cases prepared : prepare media.extract (effectiveContentType contentType) body with
  | error unread =>
    rw [prepared] at refusal
    cases refusal
  | ok handed =>
    obtain ⟨payload, metadata⟩ := handed
    rw [prepared] at refusal
    obtain ⟨answer, put, ended⟩ := (upload_ends_iff media prepared).mp
      (ends_self (media.upload key contentType body) before)
    have same := (prepare_ok prepared).1
    rw [Chunk.collect_eq, failed] at same
    cases payload with
    | buffered bytes => cases same
    | streamed chunks =>
      have settled := explains.settles put
      rw [Payload.Settles.eq_def, show refusal? before _ _ = some source from refusal] at settled
      subst settled
      have broken := failure?_of_collect ((Chunk.collect_streamed chunks).symm.trans same)
      have early := explains.early broken (explains.own refusal) put rest
      have blamed (payload : Payload) := putError_own (explains.own refusal) key payload
      have again : Ends (media.upload key contentType ((Chunk.pieces body).map .data ++ rest))
          before (.error (.store key source)) _ :=
        (upload_ends_iff media (prepare_of_streamed prepared rest)).mpr
          ⟨_, early, congrArg Except.error (blamed _).symm⟩
      have once : Ends (media.upload key contentType body) before (.error (.store key source)) _ :=
        (upload_ends_iff media prepared).mpr ⟨_, put, congrArg Except.error (blamed _).symm⟩
      exact again.trans once.symm

/-- Where the payload breaks off is reported word for word, so an upload that reports it
got there. -/
theorem reaches_of_read (explains : media.store.Explains key refusal?) {reason : String}
    (failed : Chunk.failure? body = some reason)
    (ended : Ends (media.upload key contentType body) before (.error (.read reason)) after) :
    media.Reaches before key contentType body := by
  refine ⟨by simp [failed], fun same => ?_⟩
  -- Were the reason another one, the upload would have to report that.
  obtain ⟨other, differs⟩ : ∃ other, other ≠ reason :=
    ⟨reason ++ "!", fun same => by simpa using congrArg String.length same⟩
  have again : Ends (media.upload key contentType
      ((Chunk.pieces body).map .data ++ [.failed other])) before (.error (.read reason)) after :=
    (same _).trans ended
  have settled := upload_settled explains again
  rw [Chunk.failure?_data_append] at settled
  generalize media.refusalOf refusal? before contentType _ = refusal at settled
  cases settled
  exact differs rfl

/-- A service over a store that explains itself blames rightly. -/
theorem blames (explains : media.store.Explains key refusal?)
    (ended : Ends (media.upload key contentType body) before out after) :
    media.Blames before key contentType body
      (media.refusalOf refusal? before contentType body) out := by
  have first : media.refusalOf refusal? before contentType body ≠ none →
      ¬ media.Reaches before key contentType body := not_reaches_of_refused explains
  have reached {reason : String} (failed : Chunk.failure? body = some reason)
      (read : out = .error (.read reason)) : media.Reaches before key contentType body :=
    reaches_of_read explains failed (read ▸ ended)
  have settled := upload_settled explains ended
  generalize media.refusalOf refusal? before contentType body = refusal at settled first ⊢
  generalize failed : Chunk.failure? body = failure at settled
  cases settled with
  | refused source failure =>
    have unreached := first (by simp)
    exact
      { ok_iff := by simp
        read_iff := fun reason => by simp [unreached]
        store_iff := fun name other => by simp [eq_comm]
        refused_first := first }
  | broken reason =>
    have reaches := reached failed rfl
    exact
      { ok_iff := by simp [failed]
        read_iff := fun other => by simp [failed, reaches]
        store_iff := fun name other => by simp
        refused_first := first }
  | stored receipt =>
    exact
      { ok_iff := by simp [failed]
        read_iff := fun other => by simp [failed]
        store_iff := fun name other => by simp
        refused_first := first }

end MediaService

end MediaVault

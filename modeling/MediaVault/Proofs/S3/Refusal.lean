import MediaVault.Proofs.S3.Upload

/-!
# Refused by the service, or broken off

A streamed upload fails for one of two reasons: the service refused a call, or the
stream broke off.  `Course.settled` tells them apart by the calls.  A refused upload
has not yet read where the stream breaks off, so, as `put_streamed_early` shows, it
goes the same way whatever comes there.
-/

namespace MediaVault

/-- How a put ends: as it was refused, or else as its payload can be read. -/
def Payload.Settles (payload : Payload) (refusal : Option StorageError)
    (out : Except StorageError PutOutcome) : Prop :=
  match refusal, payload.collect with
  | some source, _ => out = .error source
  | none, .error reason => out = .error (.io reason)
  | none, .ok _ => ∃ outcome, out = .ok outcome

namespace S3

/-! ## What the service refused -/

namespace Exchange

/-- The failure that is reported for an exchange of an upload.  An abort fails unnoticed. -/
def refusal? : Exchange → Option StorageError
  | ⟨.putObject key _ _, .error error⟩ => some (.backend "put" key error.text)
  | ⟨.createUpload key _, .error error⟩ => some (.backend "create multipart" key error.text)
  | ⟨.createUpload key _, .ok none⟩ => some (.backend "create multipart" key "missing upload id")
  | ⟨.uploadPart key _ _ _, .error error⟩ => some (.backend "upload part" key error.text)
  | ⟨.completeUpload key _ _, .error error⟩ => some (.backend "complete multipart" key error.text)
  | _ => none

end Exchange

/-- The first failure among the exchanges of an upload. -/
def refusal? (calls : List Exchange) : Option StorageError :=
  calls.findSome? Exchange.refusal?

theorem refusal?_eq_backend {calls : List Exchange} {error : StorageError}
    (refused : refusal? calls = some error) :
    ∃ operation key reason, error = .backend operation key reason := by
  obtain ⟨exchange, -, found⟩ := List.exists_of_findSome?_eq_some refused
  rw [Exchange.refusal?.eq_def] at found
  split at found
  case h_6 => cases found
  all_goals exact ⟨_, _, _, (Option.some.inj found).symm⟩

theorem refusal?_exchanges (key upload : String) (parts : List SentPart) (first : Nat) :
    refusal? (SentPart.exchanges key upload parts first) = none := by
  rw [refusal?, List.findSome?_eq_none_iff]
  intro exchange member
  obtain ⟨⟨part, number⟩, -, rfl⟩ := List.mem_map.mp member
  rfl

variable {service : Service} {region bucket key : String} {options : PutOptions}
  {before after : List Exchange}

theorem Course.settled {attributes : SentAttributes} {chunks : List Chunk} {way : Way}
    {calls : List Exchange} {out : Except StorageError PutOutcome}
    (course : Course key attributes chunks way calls out) :
    (Payload.streamed chunks).Settles (refusal? calls) out := by
  rw [Payload.Settles.eq_def, Chunk.collect_streamed, Chunk.collect_eq]
  cases course with
  | unread failed short =>
    rw [failed]
    rfl
  | stored etag ended short =>
    rw [ended]
    exact ⟨_, rfl⟩
  | refused error ended short => rfl
  | notCreated error full => rfl
  | noId full => rfl
  | completed upload parts etag full ended bodies =>
    have taken : refusal? (SentPart.exchanges key upload parts 1 ++
        [⟨.completeUpload key upload (SentPart.listed parts 1), .ok etag⟩]) = none := by
      rw [refusal?, List.findSome?_append, ← refusal?, refusal?_exchanges]
      rfl
    have opened : refusal? (⟨.createUpload key attributes, .ok (some upload)⟩ ::
        (SentPart.exchanges key upload parts 1 ++
          [⟨.completeUpload key upload (SentPart.listed parts 1), .ok etag⟩])) = none := taken
    rw [opened, ended]
    exact ⟨_, rfl⟩
  | @aborted upload parts tail error answer full sent broke =>
    have refused : refusal? (⟨.createUpload key attributes, .ok (some upload)⟩ ::
        (SentPart.exchanges key upload parts 1 ++ tail ++ [⟨.abortUpload key upload, answer⟩])) =
          refusal? tail := by
      have all_parts := refusal?_exchanges key upload parts 1
      rw [refusal?] at all_parts
      rw [refusal?, refusal?, List.findSome?_cons_of_isNone rfl, List.findSome?_append,
        List.findSome?_append, all_parts]
      cases answer <;> simp [Exchange.refusal?]
    rw [refused]
    cases broke with
    | stream failed some_part =>
      rw [failed]
      rfl
    | part body error => rfl
    | complete error ended some_part => rfl

theorem putWhole_settled {bytes : ByteArray} {out : Except StorageError PutOutcome}
    (h : Ends (Store.putWhole (service.client region bucket) key bytes options) before out after) :
    ∃ calls, after = before ++ calls ∧
      (Payload.buffered bytes).Settles (refusal? calls) out := by
  rcases ends_bind_iff.mp h with ⟨_, failed, rfl⟩ | ⟨etag, _, sent, ended⟩
  · obtain ⟨_, ⟨⟩, _⟩ | ⟨error, ⟨rfl⟩, rfl⟩ := Store.request_ends failed
    exact ⟨_, rfl, rfl⟩
  · obtain ⟨_, ⟨rfl⟩, rfl⟩ | ⟨_, ⟨⟩, _⟩ := Store.request_ends sent
    obtain ⟨rfl, rfl⟩ := ends_pure_iff.mp ended
    exact ⟨_, rfl, _, rfl⟩

/-- A put is refused by its first failed call, or ends as its payload can be read. -/
theorem put_settled {payload : Payload} {out : Except StorageError PutOutcome}
    (h : Ends (Store.put (service.client region bucket) key payload options) before out after) :
    ∃ calls, after = before ++ calls ∧ payload.Settles (refusal? calls) out := by
  cases payload with
  | buffered bytes => exact putWhole_settled h
  | streamed chunks =>
    obtain ⟨way, calls, grown, course⟩ := put_ends h
    exact ⟨calls, grown, course.settled⟩

/-! ## Refused before the stream broke off -/

theorem gather_append (held pieces more : List ByteArray) :
    (gather held (pieces ++ more)).1 =
      (gather held pieces).1 ++ (gather (gather held pieces).2 more).1 := by
  fun_induction gather held pieces with
  | case1 held => rfl
  | case2 held piece rest full ih => rw [List.cons_append, gather, if_pos full, ih, List.cons_append]
  | case3 held piece rest short ih => rw [List.cons_append, gather, if_neg short, ih]

/-- The parts of a stream that breaks off are parts of every stream that begins with
its pieces. -/
theorem bodiesOf_begins {chunks : List Chunk} {reason : String}
    (failed : Chunk.failure? chunks = some reason) (rest : List Chunk) :
    bodiesOf [] chunks <+: bodiesOf [] ((Chunk.pieces chunks).map .data ++ rest) := by
  rw [bodiesOf, bodiesOf, failed, List.append_nil, Chunk.pieces_data_append, gather_append,
    List.map_append, List.append_assoc]
  exact List.prefix_append _ _

namespace Store

theorem sendEach_append {m : Type → Type} [Monad m] [LawfulMonad m] (client : Client m)
    (key upload : String) (bodies more : List ByteArray) (p : Progress) :
    sendEach client key upload (bodies ++ more) p =
      sendEach client key upload bodies p >>= sendEach client key upload more := by
  induction bodies generalizing p with
  | nil => simp [sendEach]
  | cons body bodies ih => simp [sendEach, ih]

/-- Parts that cannot all be sent are refused in the same way when more follow. -/
theorem sendBodies_of_refused {upload : String} {bodies more : List ByteArray}
    {error : StorageError} (longer : bodies <+: more) (failure : Option String)
    (refused : Ends (sendEach (service.client region bucket) key upload bodies
      { waiting := ByteArray.empty }) before (.error error) after) :
    Ends (sendBodies (service.client region bucket) key upload more failure) before (.error error)
      after := by
  obtain ⟨others, rfl⟩ := longer
  refine ends_bind_iff.mpr (.inl ⟨error, ?_, rfl⟩)
  rw [sendEach_append]
  exact ends_bind_iff.mpr (.inl ⟨error, refused, rfl⟩)

/-- An upload that is refused although its stream breaks off is refused in the same way
whatever follows the pieces. -/
theorem put_streamed_early {chunks : List Chunk} {reason : String} {source : StorageError}
    (failed : Chunk.failure? chunks = some reason) (own : ∀ text, source ≠ .io text)
    (refused : Ends (put (service.client region bucket) key (.streamed chunks) options) before
      (.error source) after) (rest : List Chunk) :
    Ends (put (service.client region bucket) key
      (.streamed ((Chunk.pieces chunks).map .data ++ rest)) options) before (.error source)
      after := by
  rw [put_streamed, Plan.ofStream, failed] at refused
  rw [put_streamed, Plan.ofStream]
  split at refused
  · -- Less than a part arrived, so nothing was sent that could be refused.
    obtain ⟨broken, -⟩ := ends_throw_iff.mp refused
    exact absurd (Except.error.inj broken) (own reason)
  next full =>
    have still_full : ¬ (Bytes.join ([] ++ Chunk.pieces
        ((Chunk.pieces chunks).map .data ++ rest))).size < partSize := by
      simp only [List.nil_append, Chunk.pieces_data_append, Bytes.join_append, ByteArray.size_append]
        at full ⊢
      omega
    rw [if_neg still_full]
    rcases ends_bind_iff.mp refused with ⟨_, unopened, ⟨rfl⟩⟩ | ⟨id, between, opened, rest_run⟩
    · exact ends_bind_iff.mpr (.inl ⟨_, unopened, rfl⟩)
    refine opened.bind ?_
    cases id with
    | none => exact rest_run
    | some upload =>
      rcases ends_bind_iff.mp rest_run with ⟨_, untried, -⟩ | ⟨inner, mid, tried, ended⟩
      · obtain ⟨_, _, ⟨⟩⟩ := ends_attempt_iff.mp untried
      obtain ⟨_, sending, ⟨rfl⟩⟩ := ends_attempt_iff.mp tried
      cases inner with
      | ok outcome => cases (ends_pure_iff.mp ended).1
      | error error =>
        refine (ends_attempt_iff.mpr ⟨.error error, ?_, rfl⟩ : Ends (attempt _) _ _ mid).bind ended
        rcases ends_bind_iff.mp sending with ⟨_, unsent, ⟨rfl⟩⟩ | ⟨p, _, sent, broken⟩
        · exact sendBodies_of_refused (bodiesOf_begins failed rest) _ unsent
        · -- All parts were taken, so the error is that of the stream.
          obtain ⟨⟨rfl⟩, rfl⟩ := ends_throw_iff.mp broken
          rcases ends_bind_iff.mp ended with ⟨_, unaborted, -⟩ | ⟨answer, _, aborted, thrown⟩
          · obtain ⟨_, _, ⟨⟩⟩ := ends_attempt_iff.mp unaborted
          · exact absurd (Except.error.inj (ends_throw_iff.mp thrown).1) (own reason)

end Store

end S3

end MediaVault

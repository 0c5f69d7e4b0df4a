import Mathlib.Logic.ExistsUnique
import MediaVault.Proofs.S3.Exchange

/-!
# Streamed uploads

`Course` lists the ways in which a streamed upload can go, with every call, its
answer and the result.  `put_ends` shows that there is no other way, whatever
the stream delivers and the service answers.  Two results follow, one about
the bytes that arrive and one about what is left behind.
-/

namespace MediaVault.S3

/-- The number of bytes that a stream delivers before it ends or fails. -/
def delivered (chunks : List Chunk) : Nat :=
  (Bytes.join (Chunk.pieces chunks)).size

/-- The ways of an upload, told by the calls that are made. -/
inductive Way where
  /-- No call at all. -/
  | silent
  /-- The payload is put at once. -/
  | atOnce
  /-- An upload in parts is not opened. -/
  | unopened
  /-- An upload in parts is completed. -/
  | completed
  /-- An upload in parts is opened and aborted. -/
  | aborted
deriving Repr, DecidableEq

/-- What is sent for a stream, and what is reported. -/
inductive Course (key : String) (attributes : SentAttributes) (chunks : List Chunk) :
    Way → List Exchange → Except StorageError PutOutcome → Prop where
  | unread {reason : String} (failed : Chunk.failure? chunks = some reason)
      (short : delivered chunks < partSize) :
      Course key attributes chunks .silent [] (.error (.io reason))
  | stored (etag : Option String) (ended : Chunk.failure? chunks = none)
      (short : delivered chunks < partSize) :
      Course key attributes chunks .atOnce
        [⟨.putObject key attributes (Bytes.join (Chunk.pieces chunks)), .ok etag⟩]
        (.ok { etag := Store.tagOf etag, size := delivered chunks })
  | refused (error : CallError) (ended : Chunk.failure? chunks = none)
      (short : delivered chunks < partSize) :
      Course key attributes chunks .atOnce
        [⟨.putObject key attributes (Bytes.join (Chunk.pieces chunks)), .error error⟩]
        (.error (.backend "put" key error.text))
  | notCreated (error : CallError) (full : partSize ≤ delivered chunks) :
      Course key attributes chunks .unopened [⟨.createUpload key attributes, .error error⟩]
        (.error (.backend "create multipart" key error.text))
  | noId (full : partSize ≤ delivered chunks) :
      Course key attributes chunks .unopened [⟨.createUpload key attributes, .ok none⟩]
        (.error (.backend "create multipart" key "missing upload id"))
  | completed (upload : String) (parts : List SentPart) (etag : Option String)
      (full : partSize ≤ delivered chunks) (ended : Chunk.failure? chunks = none)
      (bodies : parts.map (·.body) = bodiesOf [] chunks) :
      Course key attributes chunks .completed
        (⟨.createUpload key attributes, .ok (some upload)⟩ ::
          (SentPart.exchanges key upload parts 1 ++
            [⟨.completeUpload key upload (SentPart.listed parts 1), .ok etag⟩]))
        (.ok { etag := Store.tagOf etag, size := (Bytes.join (bodiesOf [] chunks)).size })
  | aborted (upload : String) (parts : List SentPart) {tail : List Exchange} {error : StorageError}
      (answer : Except CallError Unit) (full : partSize ≤ delivered chunks)
      (sent : parts.map (·.body) <+: bodiesOf [] chunks)
      (broke : Store.Breakdown key upload (Chunk.failure? chunks) parts tail error) :
      Course key attributes chunks .aborted
        (⟨.createUpload key attributes, .ok (some upload)⟩ ::
          (SentPart.exchanges key upload parts 1 ++ tail ++ [⟨.abortUpload key upload, answer⟩]))
        (.error error)

theorem bodiesOf_ne_nil {chunks : List Chunk} (full : partSize ≤ delivered chunks) :
    bodiesOf [] chunks ≠ [] := by
  have runs : (gather [] (Chunk.pieces chunks)).1 ≠ [] := by
    rw [Ne, gather_eq_nil_iff [] _ (by simpa using partSize_pos)]
    simpa [delivered] using full
  simp [bodiesOf, runs]

variable {service : Service} {region bucket key : String} {options : PutOptions}
  {before after : List Exchange}

/-- A streamed upload takes one of the courses. -/
theorem put_ends {chunks : List Chunk} {out : Except StorageError PutOutcome}
    (h : Ends (Store.put (service.client region bucket) key (.streamed chunks) options) before out
      after) :
    ∃ way calls, after = before ++ calls ∧
      Course key (Store.sent options) chunks way calls out := by
  rw [Store.put_streamed, Plan.ofStream, List.nil_append] at h
  split at h
  next short =>
    cases failure : Chunk.failure? chunks with
    | some reason =>
      simp only [failure, Plan.carryOut] at h
      obtain ⟨rfl, rfl⟩ := ends_throw_iff.mp h
      exact ⟨_, [], by simp, .unread failure short⟩
    | none =>
      simp only [failure, Plan.carryOut, Store.putWhole] at h
      rcases ends_bind_iff.mp h with ⟨_, failed, rfl⟩ | ⟨etag, _, sent, ended⟩
      · obtain ⟨_, ⟨⟩, _⟩ | ⟨error, ⟨rfl⟩, rfl⟩ := Store.request_ends failed
        exact ⟨_, _, rfl, .refused error failure short⟩
      · obtain ⟨_, ⟨rfl⟩, rfl⟩ | ⟨_, ⟨⟩, _⟩ := Store.request_ends sent
        obtain ⟨rfl, rfl⟩ := ends_pure_iff.mp ended
        exact ⟨_, _, rfl, .stored etag failure short⟩
  next notShort =>
    have full : partSize ≤ delivered chunks := Nat.le_of_not_lt notShort
    simp only [Plan.carryOut] at h
    rcases ends_bind_iff.mp h with ⟨_, failed, rfl⟩ | ⟨id, _, created, rest⟩
    · obtain ⟨_, ⟨⟩, _⟩ | ⟨error, ⟨rfl⟩, rfl⟩ := Store.request_ends failed
      exact ⟨_, _, rfl, .notCreated error full⟩
    obtain ⟨_, ⟨rfl⟩, rfl⟩ | ⟨_, ⟨⟩, _⟩ := Store.request_ends created
    cases id with
    | none =>
      obtain ⟨rfl, rfl⟩ := ends_throw_iff.mp rest
      exact ⟨_, _, rfl, .noId full⟩
    | some upload =>
      rcases ends_bind_iff.mp rest with ⟨_, failed, rfl⟩ | ⟨inner, between, tried, rest⟩
      · obtain ⟨_, _, ⟨⟩⟩ := ends_attempt_iff.mp failed
      obtain ⟨_, sending, ⟨rfl⟩⟩ := ends_attempt_iff.mp tried
      obtain ⟨parts, ⟨etag, bodies, ended, rfl, rfl⟩ | ⟨tail, error, sent, broke, rfl, rfl⟩⟩ :=
        Store.sendBodies_ends (bodiesOf_ne_nil full) sending
      · obtain ⟨rfl, rfl⟩ := ends_pure_iff.mp rest
        exact ⟨_, _, by simp, .completed upload parts etag full ended bodies⟩
      -- The answer to the abort is dropped, so the error is that of the breakdown.
      · rcases ends_bind_iff.mp rest with ⟨_, failed, rfl⟩ | ⟨answer, _, aborted, thrown⟩
        · obtain ⟨_, _, ⟨⟩⟩ := ends_attempt_iff.mp failed
        obtain ⟨_, sentAbort, ⟨rfl⟩⟩ := ends_attempt_iff.mp aborted
        obtain rfl := Store.send_ends sentAbort
        obtain ⟨rfl, rfl⟩ := ends_throw_iff.mp thrown
        exact ⟨_, _, by simp, .aborted upload parts answer full sent broke⟩

/-! ## What arrives -/

/-- If a stream that does not fail is put, the service holds its bytes: either
they were put at once, or parts of them were, as `Cuts` describes.  Which of the
two is settled by the number of bytes. -/
theorem payload_reproduced (service : Service) (region bucket key : String) (options : PutOptions)
    (pieces : List ByteArray) (outcome : PutOutcome) (calls : List Exchange)
    (small : (Bytes.join pieces).size < 9007199254740992)
    (succeeds : Ends (Store.put (service.client region bucket) key (.streamed (pieces.map .data))
      options) [] (.ok outcome) calls) :
    let attributes : SentAttributes :=
      { contentType := options.contentType, cacheControl := options.cacheControl
        userMetadata := options.userMetadata.toList }
    outcome.size = (Bytes.join pieces).size ∧
      if (Bytes.join pieces).size < 8 * 1024 * 1024 then
        ∃ etag, calls = [⟨.putObject key attributes (Bytes.join pieces), .ok etag⟩]
      else
        ∃ upload parts etag,
          calls = ⟨.createUpload key attributes, .ok (some upload)⟩ ::
            (SentPart.exchanges key upload parts 1 ++
              [⟨.completeUpload key upload (SentPart.listed parts 1), .ok etag⟩]) ∧
          Cuts pieces (parts.map (·.body)) ∧ parts.length ≤ 1073741824 := by
  intro attributes
  obtain ⟨way, _, rfl, course⟩ := put_ends succeeds
  cases course with
  | stored etag ended short =>
    rw [delivered, Chunk.pieces_map_data] at short
    refine ⟨by rw [delivered, Chunk.pieces_map_data], (if_pos short).mpr ⟨etag, ?_⟩⟩
    rw [Chunk.pieces_map_data]
    rfl
  | completed upload parts etag full ended bodies =>
    rw [delivered, Chunk.pieces_map_data] at full
    have cuts := bodiesOf_cuts pieces
    have size : (Bytes.join (bodiesOf [] (pieces.map .data))).size = (Bytes.join pieces).size :=
      congrArg ByteArray.size cuts.whole
    refine ⟨congrArg Int.ofNat size, (if_neg (Nat.not_lt.mpr full)).mpr ?_⟩
    have few := cuts.parts_le
    rw [← bodies] at cuts few
    refine ⟨upload, parts, etag, rfl, cuts, ?_⟩
    simp only [List.length_map, partSize] at few
    omega

/-- A service that takes everything. -/
def Service.accepting : Service := fun _ call =>
  match call with
  | .headBucket | .createBucket _ | .abortUpload _ _ | .deleteObject _ => .ok ()
  | .putObject _ _ _ | .completeUpload _ _ _ => .ok (some "whole")
  | .uploadPart _ _ number _ => .ok (some (toString number))
  | .createUpload _ _ => .ok (some "upload")
  | .getObject _ => .ok ({}, ByteArray.empty)
  | .headObject _ => .ok {}
  | .listObjects _ _ => .ok {}

theorem planned_pair {first second : ByteArray} (full : partSize ≤ first.size)
    (short : second.size < partSize) (filled : second.isEmpty = false) :
    Plan.ofStream [] ([first, second].map .data) = .parts [first, second] none := by
  have reached : ¬ first.size + second.size < partSize := by omega
  have notFull : ¬ partSize ≤ second.size := Nat.not_le.mpr short
  simp [Plan.ofStream, reached, bodiesOf, Chunk.pieces, Chunk.failure?, gather, full, notFull,
    lastBody, filled, ByteArray.size_append]

theorem accepted_pair (first second : ByteArray) (region bucket key : String)
    (options : PutOptions) :
    ∃ outcome calls, Ends ((Plan.parts [first, second] none).carryOut
      (Service.accepting.client region bucket) key options) [] (.ok outcome) calls :=
  ⟨_, _, rfl⟩

/-- The stream of a full part and one more byte is sent as two parts. -/
theorem payload_reproduced_in_two_parts :
    let first : ByteArray := ⟨Array.replicate (8 * 1024 * 1024) 0⟩
    let second : ByteArray := ⟨#[1]⟩
    let put := Store.put (Service.accepting.client "us-east-1" "media") "posts/1/clip.mp4"
      (.streamed ([first, second].map .data)) { contentType := "video/mp4" }
    (Bytes.join [first, second]).size < 9007199254740992 ∧
      ∃ outcome calls, Ends put [] (.ok outcome) calls ∧
        outcome.size = (Bytes.join [first, second]).size ∧
        ∃ upload parts, Cuts [first, second] (parts.map (·.body)) ∧
          SentPart.exchanges "posts/1/clip.mp4" upload parts 1 <:+: calls := by
  intro first second put
  have full : first.size = 8 * 1024 * 1024 := Array.size_replicate
  have joined : (Bytes.join [first, second]).size = 8 * 1024 * 1024 + 1 := by
    rw [Bytes.join_cons, ByteArray.size_append, full]
    rfl
  have small : (Bytes.join [first, second]).size < 9007199254740992 := by omega
  -- The sizes are named above, so that nothing below looks into eight million bytes.
  have planned : put = (Plan.parts [first, second] none).carryOut
      (Service.accepting.client "us-east-1" "media") "posts/1/clip.mp4"
      { contentType := "video/mp4" } := by
    rw [← planned_pair (Nat.le_of_eq full.symm) (by decide : second.size < partSize) rfl]
    exact Store.put_streamed _ _ _ _
  obtain ⟨outcome, calls, ends⟩ := accepted_pair first second "us-east-1" "media" "posts/1/clip.mp4"
    { contentType := "video/mp4" }
  rw [← planned] at ends
  have full_stream : ¬ (Bytes.join [first, second]).size < 8 * 1024 * 1024 := by omega
  have reproduced := payload_reproduced _ _ _ _ _ _ _ _ small ends
  simp only [if_neg full_stream] at reproduced
  obtain ⟨size, upload, parts, etag, rfl, cuts, _⟩ := reproduced
  exact ⟨small, outcome, _, ends, size, upload, parts, cuts, [_], [_], rfl⟩

/-! ## What is left behind -/

namespace Exchange

/-- The service took an object for good. -/
def stores : Exchange → Bool
  | ⟨.putObject _ _ _, .ok _⟩ => true
  | ⟨.completeUpload _ _ _, .ok _⟩ => true
  | _ => false

/-- The service handed out an upload for a key. -/
def opens (key upload : String) : Exchange → Bool
  | ⟨.createUpload k _, .ok (some id)⟩ => k = key ∧ id = upload
  | _ => false

/-- The service completed an upload for a key. -/
def completes (key upload : String) : Exchange → Bool
  | ⟨.completeUpload k id _, .ok _⟩ => k = key ∧ id = upload
  | _ => false

/-- The service was asked to abort an upload for a key. -/
def aborts (key upload : String) : Exchange → Bool
  | ⟨.abortUpload k id, _⟩ => k = key ∧ id = upload
  | _ => false

end Exchange

/-- The way that the last call tells. -/
def Way.ofLast : Option Call → Way
  | none => silent
  | some (.putObject _ _ _) => atOnce
  | some (.createUpload _ _) => unopened
  | some (.abortUpload _ _) => aborted
  | some _ => completed

theorem Course.way_eq {attributes : SentAttributes} {chunks : List Chunk} {way : Way}
    {calls : List Exchange} {out : Except StorageError PutOutcome}
    (h : Course key attributes chunks way calls out) :
    way = Way.ofLast (calls.getLast?.map (·.call)) := by
  cases h with
  | unread | stored | refused | notCreated | noId => rfl
  | completed | aborted => simp [List.getLast?_cons, Way.ofLast]

theorem countP_exchanges {upload : String} {parts : List SentPart} {first : Nat}
    {counted : Exchange → Bool}
    (none_counted : ∀ number body etag,
      counted ⟨.uploadPart key upload number body, .ok etag⟩ = false) :
    (SentPart.exchanges key upload parts first).countP counted = 0 := by
  rw [List.countP_eq_zero]
  intro exchange member
  obtain ⟨⟨part, number⟩, _, rfl⟩ := List.mem_map.mp member
  simp [none_counted]

/-- What breaks down neither opens nor settles an upload. -/
theorem countP_breakdown {upload : String} {failure : Option String} {parts : List SentPart}
    {tail : List Exchange} {error : StorageError}
    (broke : Store.Breakdown key upload failure parts tail error) (k id : String) :
    tail.countP (·.opens k id) = 0 ∧ tail.countP (·.completes k id) = 0 ∧
      tail.countP (·.aborts k id) = 0 := by
  cases broke with
  | stream failed sent => simp
  | part body error => simp [Exchange.opens, Exchange.completes, Exchange.aborts]
  | complete error ended sent => simp [Exchange.opens, Exchange.completes, Exchange.aborts]

/-- Of an upload, exactly one thing is left behind: a completion or an abort. -/
theorem Course.balanced {attributes : SentAttributes} {chunks : List Chunk} {way : Way}
    {calls : List Exchange} {out : Except StorageError PutOutcome}
    (h : Course key attributes chunks way calls out) (k id : String) :
    calls.countP (·.opens k id) ≤ 1 ∧
      calls.countP (·.completes k id) + calls.countP (·.aborts k id) =
        calls.countP (·.opens k id) := by
  cases h with
  | unread failed short => simp
  | stored etag ended short => simp [Exchange.opens, Exchange.completes, Exchange.aborts]
  | refused error ended short => simp [Exchange.opens, Exchange.completes, Exchange.aborts]
  | notCreated error full => simp [Exchange.opens, Exchange.completes, Exchange.aborts]
  | noId full => simp [Exchange.opens, Exchange.completes, Exchange.aborts]
  | completed upload parts etag full ended bodies =>
    by_cases same : key = k ∧ upload = id
    · simp [countP_exchanges, Exchange.opens, Exchange.completes, Exchange.aborts, same]
    · simp [countP_exchanges, Exchange.opens, Exchange.completes, Exchange.aborts, same]
  | aborted upload parts answer full sent broke =>
    obtain ⟨opened, completed, aborted⟩ := countP_breakdown broke k id
    simp only [List.countP_cons, List.countP_append, List.countP_nil, opened, completed, aborted]
    by_cases same : key = k ∧ upload = id
    · simp [countP_exchanges, Exchange.opens, Exchange.completes, Exchange.aborts, same]
    · simp [countP_exchanges, Exchange.opens, Exchange.completes, Exchange.aborts, same]

theorem Course.ok_iff {attributes : SentAttributes} {chunks : List Chunk} {way : Way}
    {calls : List Exchange} {out : Except StorageError PutOutcome}
    (h : Course key attributes chunks way calls out) :
    (∃ outcome, out = .ok outcome) ↔ ∃ last, calls.getLast? = some last ∧ last.stores = true := by
  cases h with
  | unread failed short => simp
  | stored etag ended short => simp [Exchange.stores]
  | refused error ended short => simp [Exchange.stores]
  | notCreated error full => simp [Exchange.stores]
  | noId full => simp [Exchange.stores]
  | completed upload parts etag full ended bodies =>
    simp [Exchange.stores, List.getLast?_cons]
  | aborted upload parts answer full sent broke =>
    simp [Exchange.stores, List.getLast?_cons]

/-- Whatever the stream delivers and the service answers, a streamed upload goes
exactly one way, leaves no upload open, and succeeds if and only if the last
call made the service take the object. -/
theorem uploads_settled (service : Service) (region bucket key : String) (chunks : List Chunk)
    (options : PutOptions) :
    let run := (Store.put (service.client region bucket) key (.streamed chunks) options).run.run []
    (∃! way, Course key (Store.sent options) chunks way run.2 run.1) ∧
      (∀ k upload, run.2.countP (·.opens k upload) ≤ 1 ∧
        run.2.countP (·.completes k upload) + run.2.countP (·.aborts k upload) =
          run.2.countP (·.opens k upload)) ∧
      ((∃ outcome, run.1 = .ok outcome) ↔
        ∃ last, run.2.getLast? = some last ∧ last.stores = true) := by
  intro run
  have ended := ends_self (Store.put (service.client region bucket) key (.streamed chunks) options) []
  obtain ⟨way, calls, log, course⟩ := put_ends ended
  obtain rfl : run.2 = calls := log
  have only_way : ∀ other, Course key (Store.sent options) chunks other run.2 run.1 → other = way :=
    fun other taken => taken.way_eq.trans course.way_eq.symm
  exact ⟨⟨way, course, only_way⟩, course.balanced, course.ok_iff⟩

end MediaVault.S3

import MediaVault.Proofs.Run
import MediaVault.Proofs.S3.Plan

/-!
# Exchanges with a service

A service is any function from what went before to the next answer, so a
theorem about all services covers every sequence of successes and failures.
The client keeps a record of its exchanges.  `sendEach_ends` and
`sendBodies_ends` say which exchanges a list of parts leads to.
-/

namespace MediaVault.S3

/-- Status 404 is enough, whatever the code that comes with it. -/
@[simp]
theorem CallError.isMissing_notFound (code text : String) (given : Option String) :
    (refused 404 given text).isMissing code = true := by
  simp [isMissing, hasStatus]

/-- A call and what came of it. -/
structure Exchange where
  call : Call
  answer : Except CallError call.Reply

/-- A service answers by all that went before. -/
abbrev Service := (earlier : List Exchange) → (call : Call) → Except CallError call.Reply

namespace Service

/-- The client of a service; its exchanges are recorded in order. -/
def client (service : Service) (region bucket : String) : Client (StateM (List Exchange)) where
  region := region
  bucket := bucket
  send call := ExceptT.mk fun log => (service log call, log ++ [⟨call, service log call⟩])

end Service

/-- A part that was sent, with the tag that the service gave it. -/
structure SentPart where
  body : ByteArray
  etag : Option String

namespace SentPart

/-- The exchanges that send parts, numbered from `first` on. -/
def exchanges (key upload : String) (parts : List SentPart) (first : Nat) : List Exchange :=
  (parts.zipIdx first).map fun (part, number) =>
    ⟨.uploadPart key upload number part.body, .ok part.etag⟩

/-- The parts as they are listed at the end. -/
def listed (parts : List SentPart) (first : Nat) : List CompletedPart :=
  (parts.zipIdx first).map fun (part, number) => ⟨number, part.etag⟩

end SentPart

namespace Store

variable {service : Service} {region bucket key upload : String} {before after : List Exchange}

/-- A call leaves one exchange behind. -/
theorem send_ends {call : Call} {out : Except CallError call.Reply}
    (h : Ends ((service.client region bucket).send call) before out after) :
    after = before ++ [⟨call, out⟩] := by
  obtain ⟨rfl, rfl⟩ := Prod.mk.inj h
  rfl

/-- A request is one exchange, and its failure is reported for its operation. -/
theorem request_ends {operation : String} {call : Call} {out : Except StorageError call.Reply}
    (h : Ends (request (service.client region bucket) operation key call) before out after) :
    (∃ reply, out = .ok reply ∧ after = before ++ [⟨call, .ok reply⟩]) ∨
      ∃ error : CallError, out = .error (.backend operation key error.text) ∧
        after = before ++ [⟨call, .error error⟩] := by
  obtain ⟨answer, ended, rfl⟩ := ends_mapError_iff.mp h
  obtain rfl := send_ends ended
  cases answer with
  | ok reply => exact .inl ⟨reply, rfl, rfl⟩
  | error error => exact .inr ⟨error, rfl, rfl⟩

/-- Bodies are sent under consecutive numbers, up to the first one that fails. -/
theorem sendEach_ends {bodies : List ByteArray} {p : Progress} {out : Except StorageError Progress}
    (h : Ends (sendEach (service.client region bucket) key upload bodies p) before out after) :
    ∃ parts : List SentPart,
      (parts.map (·.body) = bodies ∧
        after = before ++ SentPart.exchanges key upload parts (p.parts.length + 1) ∧
        ∃ q : Progress, out = .ok q ∧ q.size = p.size + (Bytes.join bodies).size ∧
          q.parts.reverse = p.parts.reverse ++ SentPart.listed parts (p.parts.length + 1)) ∨
      ∃ (body : ByteArray) (unsent : List ByteArray) (error : CallError),
        parts.map (·.body) ++ body :: unsent = bodies ∧
        after = before ++ SentPart.exchanges key upload parts (p.parts.length + 1) ++
          [⟨.uploadPart key upload (p.parts.length + 1 + parts.length) body, .error error⟩] ∧
        out = .error (.backend "upload part" key error.text) := by
  -- Numbers continue from the parts in `p`, which grow by one with each body sent.
  induction bodies generalizing p before with
  | nil =>
    obtain ⟨rfl, rfl⟩ := ends_pure_iff.mp h
    exact ⟨[], .inl ⟨rfl, by simp [SentPart.exchanges], p, rfl, by simp, by simp [SentPart.listed]⟩⟩
  | cons body bodies ih =>
    simp only [sendEach, Progress.flush, bind_assoc, pure_bind] at h
    rcases ends_bind_iff.mp h with ⟨_, failed, rfl⟩ | ⟨etag, between, sent, rest⟩
    · obtain ⟨reply, ⟨⟩, _⟩ | ⟨error, ⟨rfl⟩, rfl⟩ := request_ends failed
      exact ⟨[], .inr ⟨body, bodies, error, rfl, by simp [SentPart.exchanges], rfl⟩⟩
    · obtain ⟨reply, ⟨rfl⟩, rfl⟩ | ⟨error, ⟨⟩, _⟩ := request_ends sent
      obtain ⟨parts, outcome⟩ := ih rest
      refine ⟨⟨body, etag⟩ :: parts, ?_⟩
      rcases outcome with ⟨rfl, rfl, q, rfl, size, listed⟩ | ⟨last, unsent, error, rfl, rfl, rfl⟩
      · refine .inl ⟨rfl, by simp [SentPart.exchanges], q, rfl, ?_, ?_⟩
        · simp only [size, Bytes.join_cons, ByteArray.size_append]
          omega
        · simpa [SentPart.listed] using listed
      · refine .inr ⟨last, unsent, error, rfl, ?_, rfl⟩
        simp [SentPart.exchanges, Nat.add_comm, Nat.add_left_comm]

/-- How sending parts breaks down once `parts` were sent: the exchange that
failed, if it was one, and the error. -/
inductive Breakdown (key upload : String) (failure : Option String) (parts : List SentPart) :
    List Exchange → StorageError → Prop where
  | stream {reason : String} (failed : failure = some reason) (sent : parts ≠ []) :
      Breakdown key upload failure parts [] (.io reason)
  | part (body : ByteArray) (error : CallError) :
      Breakdown key upload failure parts
        [⟨.uploadPart key upload (parts.length + 1) body, .error error⟩]
        (.backend "upload part" key error.text)
  | complete (error : CallError) (ended : failure = none) (sent : parts ≠ []) :
      Breakdown key upload failure parts
        [⟨.completeUpload key upload (SentPart.listed parts 1), .error error⟩]
        (.backend "complete multipart" key error.text)

/-- Either all bodies are sent and the upload is completed, or a part of them is
sent and something breaks down. -/
theorem sendBodies_ends {bodies : List ByteArray} (some_body : bodies ≠ [])
    {failure : Option String} {out : Except StorageError PutOutcome}
    (h : Ends (sendBodies (service.client region bucket) key upload bodies failure) before out
      after) :
    ∃ parts : List SentPart,
      (∃ etag, parts.map (·.body) = bodies ∧ failure = none ∧
        after = before ++ (SentPart.exchanges key upload parts 1 ++
          [⟨.completeUpload key upload (SentPart.listed parts 1), .ok etag⟩]) ∧
        out = .ok { etag := tagOf etag, size := (Bytes.join bodies).size }) ∨
      ∃ tail error, parts.map (·.body) <+: bodies ∧
        Breakdown key upload failure parts tail error ∧
        after = before ++ (SentPart.exchanges key upload parts 1 ++ tail) ∧ out = .error error := by
  rcases ends_bind_iff.mp h with ⟨error, failed, rfl⟩ | ⟨p, between, sent, rest⟩
  · obtain ⟨parts, ⟨_, _, _, ⟨⟩, _⟩ | ⟨body, unsent, cause, bodies, rfl, ⟨rfl⟩⟩⟩ :=
      sendEach_ends failed
    refine ⟨parts, .inr ⟨_, _, ⟨body :: unsent, bodies⟩, .part body cause, ?_, rfl⟩⟩
    simp [Nat.add_comm]
  · obtain ⟨parts, ⟨rfl, rfl, _, ⟨rfl⟩, size, listed⟩ | ⟨_, _, _, _, _, ⟨⟩⟩⟩ := sendEach_ends sent
    have some_part : parts ≠ [] := by simpa using some_body
    refine ⟨parts, ?_⟩
    cases failure with
    | some reason =>
      obtain ⟨rfl, rfl⟩ := ends_throw_iff.mp rest
      exact .inr ⟨_, _, List.prefix_rfl, .stream rfl some_part, by simp, rfl⟩
    | none =>
      have all_listed : p.parts.reverse = SentPart.listed parts 1 := listed
      have all_sent : p.size = (Bytes.join (parts.map (·.body))).size := by simpa using size
      rw [all_listed, all_sent] at rest
      rcases ends_bind_iff.mp rest with ⟨_, failed, rfl⟩ | ⟨etag, _, completed, ended⟩
      · obtain ⟨_, ⟨⟩, _⟩ | ⟨cause, ⟨rfl⟩, rfl⟩ := request_ends failed
        exact .inr ⟨_, _, List.prefix_rfl, .complete cause rfl some_part, by simp, rfl⟩
      · obtain ⟨_, ⟨rfl⟩, rfl⟩ | ⟨_, ⟨⟩, _⟩ := request_ends completed
        obtain ⟨rfl, rfl⟩ := ends_pure_iff.mp ended
        exact .inl ⟨etag, rfl, rfl, by simp, rfl⟩

end Store

end MediaVault.S3

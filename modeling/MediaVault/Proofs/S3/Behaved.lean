import Mathlib.Data.List.Forall2
import MediaVault.Proofs.S3.Bucket
import MediaVault.Proofs.S3.Upload

/-!
# The store over a service that behaves

Over a service that answers as a bucket, each operation of the store does to the
objects of the bucket what its name says, and reports it.  `put_behaved` covers
every way of an upload; `listPages_behaved` puts the pages of a listing together.
-/

namespace MediaVault.S3.Store

variable {service : Service} {region bucket key : String} {before after : List Exchange}

/-! ## The log stays genuine -/

theorem send_keeps {call : Call} :
    Keeps service.Genuine ((service.client region bucket).send call) := by
  intro before out after h genuine
  obtain ⟨rfl, rfl⟩ := Prod.mk.inj h
  exact Service.genuine_snoc genuine call

theorem request_keeps {operation key : String} {call : Call} :
    Keeps service.Genuine (request (service.client region bucket) operation key call) :=
  Keeps.mapError send_keeps _

theorem putWhole_keeps (bytes : ByteArray) (options : PutOptions) :
    Keeps service.Genuine (putWhole (service.client region bucket) key bytes options) :=
  Keeps.bind request_keeps fun _ => keeps_pure _

theorem sendEach_keeps (upload : String) (bodies : List ByteArray) (p : Progress) :
    Keeps service.Genuine (sendEach (service.client region bucket) key upload bodies p) := by
  induction bodies generalizing p with
  | nil => exact keeps_pure p
  | cons body bodies ih =>
    exact Keeps.bind (Keeps.bind request_keeps fun _ => keeps_pure _) ih

theorem sendBodies_keeps (upload : String) (bodies : List ByteArray) (failure : Option String) :
    Keeps service.Genuine
      (sendBodies (service.client region bucket) key upload bodies failure) := by
  refine (sendEach_keeps upload bodies _).bind fun p => ?_
  cases failure with
  | some reason => exact keeps_throw _
  | none => exact Keeps.bind request_keeps fun _ => keeps_pure _

theorem carryOut_keeps (plan : Plan) (options : PutOptions) :
    Keeps service.Genuine (plan.carryOut (service.client region bucket) key options) := by
  cases plan with
  | whole bytes => exact putWhole_keeps bytes options
  | unread reason => exact keeps_throw _
  | parts bodies failure =>
    refine Keeps.bind request_keeps fun id => ?_
    cases id with
    | none => exact keeps_throw _
    | some upload =>
      refine (sendBodies_keeps upload bodies failure).attempt.bind fun result => ?_
      cases result with
      | ok outcome => exact keeps_pure _
      | error error => exact Keeps.bind (Keeps.attempt send_keeps) fun _ => keeps_throw _

theorem put_keeps (payload : Payload) (options : PutOptions) :
    Keeps service.Genuine (put (service.client region bucket) key payload options) := by
  cases payload with
  | buffered bytes => exact putWhole_keeps bytes options
  | streamed chunks =>
    rw [put_streamed]
    exact carryOut_keeps _ options

/-! ## Writing -/

/-- What a put makes of the objects of a bucket, and what it reports. -/
def PutAsKept (key : String) (attributes : SentAttributes) (read : Except String ByteArray)
    (before after : Std.TreeMap String Kept) (out : Except StorageError PutOutcome) : Prop :=
  match read with
  | .error reason => out = .error (.io reason) ∧ after = before
  | .ok bytes => (∃ etag, out = .ok { etag := etag, size := bytes.size }) ∧
      after = before.insert key ⟨attributes, bytes⟩

/-- A put that succeeds leaves the whole payload behind, and one that fails leaves no trace
among the objects. -/
def AllOrNothing (key : String) (attributes : SentAttributes) (read : Except String ByteArray)
    (before after : Std.TreeMap String Kept) : Except StorageError PutOutcome → Prop
  | .ok outcome => ∃ bytes, read = .ok bytes ∧ outcome.size = bytes.size ∧
      after = before.insert key ⟨attributes, bytes⟩
  | .error _ => after = before

/-- Whatever the service answers, it is left with all of a stream or nothing of it. -/
theorem allOrNothing_of_course {attributes : SentAttributes} {chunks : List Chunk} {way : Way}
    {calls : List Exchange} {out : Except StorageError PutOutcome}
    (course : Course key attributes chunks way calls out) (before : List Exchange) :
    AllOrNothing key attributes (Chunk.collect chunks) (Bucket.after before).objects
      (Bucket.after (before ++ calls)).objects out := by
  rw [Chunk.collect_eq]
  cases course with
  | unread failed short =>
    rw [List.append_nil]
    rfl
  | stored etag ended short =>
    rw [ended, Bucket.after_snoc]
    exact ⟨_, rfl, rfl, rfl⟩
  | refused | notCreated | noId =>
    rw [Bucket.after_snoc]
    rfl
  | completed upload parts etag full ended bodies =>
    rw [ended, Bucket.objects_of_completed, bodies, join_bodiesOf ended]
    exact ⟨_, rfl, rfl, rfl⟩
  | aborted upload parts answer full sent broke =>
    obtain ⟨unchanged, found⟩ := Bucket.after_sending before key upload attributes parts
    have aborted (bucket : Bucket) :
        (bucket.take ⟨.abortUpload key upload, answer⟩).objects = bucket.objects := by
      cases answer <;> rfl
    rw [← List.cons_append, ← List.append_assoc, Bucket.after_snoc, aborted]
    -- What broke down was a call that failed, if it was a call at all.
    cases broke with
    | stream => rwa [List.append_nil]
    | part | complete =>
      rw [← List.cons_append, ← List.append_assoc, Bucket.after_snoc]
      exact unchanged

theorem put_allOrNothing {payload : Payload} {options : PutOptions}
    {out : Except StorageError PutOutcome}
    (h : Ends (put (service.client region bucket) key payload options) before out after) :
    AllOrNothing key (sent options) payload.collect (Bucket.after before).objects
      (Bucket.after after).objects out := by
  cases payload with
  | buffered bytes =>
    rcases ends_bind_iff.mp h with ⟨_, failed, rfl⟩ | ⟨etag, _, sent, ended⟩
    · obtain ⟨_, ⟨⟩, _⟩ | ⟨error, ⟨rfl⟩, rfl⟩ := request_ends failed
      rw [Bucket.after_snoc]
      rfl
    · obtain ⟨_, ⟨rfl⟩, rfl⟩ | ⟨_, ⟨⟩, _⟩ := request_ends sent
      obtain ⟨rfl, rfl⟩ := ends_pure_iff.mp ended
      rw [Bucket.after_snoc]
      exact ⟨_, rfl, rfl, rfl⟩
  | streamed chunks =>
    obtain ⟨way, calls, rfl, course⟩ := put_ends h
    rw [Chunk.collect_streamed]
    exact allOrNothing_of_course course before

/-- On every course over a service that behaves, a readable stream is kept and an
unreadable one leaves no trace among the objects. -/
theorem putAsKept_of_course (behaves : service.Behaves) (filled : key ≠ "")
    {attributes : SentAttributes} {chunks : List Chunk} {way : Way} {calls : List Exchange}
    {out : Except StorageError PutOutcome} (genuine : service.Genuine (before ++ calls))
    (course : Course key attributes chunks way calls out) :
    PutAsKept key attributes (Chunk.collect chunks) (Bucket.after before).objects
      (Bucket.after (before ++ calls)).objects out := by
  have left := allOrNothing_of_course course before
  rw [Chunk.collect_eq] at left ⊢
  cases course with
  | unread failed short =>
    rw [failed]
    exact ⟨rfl, left⟩
  | stored etag ended short | completed upload parts etag full ended bodies =>
    rw [ended] at left ⊢
    obtain ⟨bytes, ⟨rfl⟩, size, kept⟩ := left
    exact ⟨⟨_, congrArg (fun size => Except.ok (PutOutcome.mk _ size)) size⟩, kept⟩
  -- A bucket refuses no object that has a key, and names every upload it creates.
  | refused error ended short =>
    obtain ⟨_, ⟨⟩⟩ := behaves.allows genuine filled
  | notCreated error full =>
    obtain ⟨_, ⟨⟩⟩ := behaves.allows genuine filled
  | noId full =>
    obtain ⟨_, ⟨⟩⟩ := behaves.allows genuine filled
  | aborted upload parts answer full sent broke =>
    obtain ⟨-, found⟩ := Bucket.after_sending before key upload attributes parts
    cases broke with
    | stream failed sent =>
      rw [failed]
      exact ⟨rfl, left⟩
    -- A bucket takes every part of an open upload, and completes it with all of them.
    | part body error =>
      rw [List.append_assoc, List.singleton_append, ← List.cons_append, ← List.append_assoc]
        at genuine
      obtain ⟨_, ⟨⟩⟩ := behaves.allows genuine _ found
    | complete error ended sent =>
      rw [List.append_assoc, List.singleton_append, ← List.cons_append, ← List.append_assoc]
        at genuine
      obtain ⟨_, ⟨⟩⟩ := behaves.allows genuine _ found (OpenUpload.lists_addAll _ _ _)

theorem put_behaved (behaves : service.Behaves) (filled : key ≠ "")
    (genuine : service.Genuine before) {payload : Payload} {options : PutOptions}
    {out : Except StorageError PutOutcome}
    (h : Ends (put (service.client region bucket) key payload options) before out after) :
    service.Genuine after ∧
      PutAsKept key (sent options) payload.collect (Bucket.after before).objects
        (Bucket.after after).objects out := by
  have kept := put_keeps payload options _ _ _ h genuine
  refine ⟨kept, ?_⟩
  cases payload with
  | buffered bytes =>
    rcases ends_bind_iff.mp h with ⟨_, failed, rfl⟩ | ⟨etag, _, sent, ended⟩
    · obtain ⟨_, ⟨⟩, _⟩ | ⟨error, ⟨rfl⟩, rfl⟩ := request_ends failed
      obtain ⟨_, ⟨⟩⟩ := behaves.allows kept filled
    · obtain ⟨_, ⟨rfl⟩, rfl⟩ | ⟨_, ⟨⟩, _⟩ := request_ends sent
      obtain ⟨rfl, rfl⟩ := ends_pure_iff.mp ended
      rw [Bucket.after_snoc]
      exact ⟨⟨_, rfl⟩, rfl⟩
  | streamed chunks =>
    obtain ⟨way, calls, rfl, course⟩ := put_ends h
    rw [Chunk.collect_streamed]
    exact putAsKept_of_course behaves filled kept course

theorem delete_behaved (behaves : service.Behaves) (filled : key ≠ "")
    (genuine : service.Genuine before) {out : Except StorageError Unit}
    (h : Ends (request (service.client region bucket) "delete" key (.deleteObject key)) before out
      after) :
    service.Genuine after ∧ out = .ok () ∧
      (Bucket.after after).objects = (Bucket.after before).objects.erase key := by
  have kept := request_keeps _ _ _ h genuine
  obtain ⟨_, rfl, rfl⟩ | ⟨error, rfl, rfl⟩ := request_ends h
  · rw [Bucket.after_snoc]
    exact ⟨kept, rfl, rfl⟩
  · cases behaves.allows kept filled

/-! ## Looking up -/

/-- Ask for an object; that there is none is told apart from other failures. -/
def lookUp {m : Type → Type} [Monad m] {α : Type} (client : Client m)
    (operation missing key : String) (call : Call) (describe : call.Reply → α) :
    ExceptT StorageError m α :=
  ExceptT.mk do
    match ← (client.send call).run with
    | .ok reply => pure (.ok (describe reply))
    | .error error => pure (.error (lookupError operation missing key error))

theorem get_eq {m : Type → Type} [Monad m] (client : Client m) (key : String) :
    get client key = lookUp client "get" "NoSuchKey" key (.getObject key)
      (fun reply => { info := infoOf key reply.1, bytes := reply.2 }) := by
  refine congrArg (fun next => (client.send (.getObject key)).run >>= next) ?_
  funext answer
  cases answer <;> rfl

theorem stat_eq {m : Type → Type} [Monad m] (client : Client m) (key : String) :
    stat client key = lookUp client "stat" "NotFound" key (.headObject key) (infoOf key) := by
  refine congrArg (fun next => (client.send (.headObject key)).run >>= next) ?_
  funext answer
  cases answer <;> rfl

/-- What is reported of the answer to a look-up. -/
def lookedUp {α Reply : Type} (operation missing key : String) (describe : Reply → α) :
    Except CallError Reply → Except StorageError α
  | .ok reply => .ok (describe reply)
  | .error error => .error (lookupError operation missing key error)

theorem lookUp_ends {α : Type} {operation missing : String} {call : Call} {describe : call.Reply → α}
    {out : Except StorageError α}
    (h : Ends (lookUp (service.client region bucket) operation missing key call describe) before out
      after) :
    after = before ++ [⟨call, service before call⟩] ∧
      out = lookedUp operation missing key describe (service before call) := by
  have ran : (lookUp (service.client region bucket) operation missing key call describe).run.run before =
      (lookedUp operation missing key describe (service before call),
        before ++ [⟨call, service before call⟩]) := by
    simp only [lookUp, ExceptT.run_mk, StateT.run_bind]
    change (match service before call with
      | .ok reply => (pure (.ok (describe reply)) : StateM (List Exchange) (Except StorageError α))
      | .error error => pure (.error (lookupError operation missing key error)))
        (before ++ [(⟨call, service before call⟩ : Exchange)]) = _
    cases service before call <;> rfl
  obtain ⟨rfl, rfl⟩ := Prod.mk.inj (ran.symm.trans h)
  exact ⟨rfl, rfl⟩

theorem lookupError_missing (operation missing key : String) (code : Option String)
    (text : String) :
    lookupError operation missing key (.refused 404 code text) = .objectNotFound key := by
  simp [lookupError]

/-- What a look-up in a bucket comes to. -/
def Found {α : Type} (objects : Std.TreeMap String Kept) (key : String)
    (describe : ObjectReply → Kept → α) (out : Except StorageError α) : Prop :=
  match objects[key]? with
  | some kept => ∃ reply : ObjectReply, reply.Tells kept ∧ out = .ok (describe reply kept)
  | none => out = .error (.objectNotFound key)

/-- A look-up finds what a bucket keeps when the answer tells it. -/
theorem found_of_answer {α Reply : Type} {objects : Std.TreeMap String Kept}
    {tell : ObjectReply → Kept → Reply} {answer : Except CallError Reply} (operation missing : String)
    (describe : Reply → α)
    (allowed : match objects[key]? with
      | some kept => ∃ reply : ObjectReply, reply.Tells kept ∧ answer = .ok (tell reply kept)
      | none => ∃ code text, answer = .error (.refused 404 code text)) :
    Found objects key (fun reply kept => describe (tell reply kept))
      (lookedUp operation missing key describe answer) := by
  rw [Found]
  cases found : objects[key]? with
  | some kept =>
    rw [found] at allowed
    obtain ⟨reply, tells, rfl⟩ := allowed
    exact ⟨reply, tells, rfl⟩
  | none =>
    rw [found] at allowed
    obtain ⟨code, text, rfl⟩ := allowed
    exact congrArg _ (lookupError_missing ..)

theorem get_behaved (behaves : service.Behaves) (filled : key ≠ "")
    (genuine : service.Genuine before) {out : Except StorageError StoredObject}
    (h : Ends (get (service.client region bucket) key) before out after) :
    service.Genuine after ∧ (Bucket.after after).objects = (Bucket.after before).objects ∧
      Found (Bucket.after before).objects key
        (fun reply kept => { info := infoOf key reply, bytes := kept.body }) out := by
  rw [get_eq] at h
  obtain ⟨rfl, rfl⟩ := lookUp_ends h
  refine ⟨Service.genuine_snoc genuine _, by rw [Bucket.after_snoc]; rfl, ?_⟩
  exact found_of_answer _ _ _ (behaves before genuine (.getObject key) filled)

theorem stat_behaved (behaves : service.Behaves) (filled : key ≠ "")
    (genuine : service.Genuine before) {out : Except StorageError ObjectInfo}
    (h : Ends (stat (service.client region bucket) key) before out after) :
    service.Genuine after ∧ (Bucket.after after).objects = (Bucket.after before).objects ∧
      Found (Bucket.after before).objects key (fun reply _ => infoOf key reply) out := by
  rw [stat_eq] at h
  obtain ⟨rfl, rfl⟩ := lookUp_ends h
  refine ⟨Service.genuine_snoc genuine _, by rw [Bucket.after_snoc]; rfl, ?_⟩
  exact found_of_answer _ _ _ (behaves before genuine (.headObject key) filled)

/-! ## Listing -/

/-- The summary is that of an object. -/
structure Summarizes (summary : ObjectSummary) (object : String × Kept) : Prop where
  key : summary.key = object.1
  size : summary.size = (object.2.body.size : Int)

theorem summaries_of_shown {entries : List ListEntry} {shown : List (String × Kept)}
    (tells : List.Forall₂ ListEntry.Tells entries shown) :
    List.Forall₂ Summarizes (entries.filterMap summaryOf?) shown := by
  induction tells with
  | nil => exact .nil
  | @cons entry object entries shown told tells ih =>
    simp only [List.filterMap_cons, summaryOf?, told.key, Option.map_some]
    exact .cons ⟨rfl, by rw [told.size]; rfl⟩ ih

theorem lastKey_of_shown {entries : List ListEntry} {earlier : List (String × Kept)}
    {last : String × Kept} (tells : List.Forall₂ ListEntry.Tells entries (earlier ++ [last])) :
    entries.getLast?.bind (·.key) = some last.1 := by
  have backwards := List.forall₂_reverse_iff.mpr tells
  rw [List.reverse_concat] at backwards
  rw [List.getLast?_eq_head?_reverse]
  generalize entries.reverse = reversed at backwards
  cases backwards with
  | cons told _ => exact told.key

/-- What is left after a page is what remains after its last key. -/
theorem remaining_after_shown {kept : Bucket} {lead : String} {mark : Option String}
    {shown others : List (String × Kept)} {last : String × Kept}
    (split : shown ++ last :: others = kept.remaining lead mark) :
    kept.remaining lead (some last.1) = others := by
  have passed : ∀ m, mark = some m → m < last.1 := by
    have member : last ∈ kept.remaining lead mark := by rw [← split]; simp
    have shows := (List.mem_filter.mp member).2
    rintro m rfl
    simpa using (Bool.and_eq_true_iff.mp shows).2
  have narrowed : kept.remaining lead (some last.1) =
      (kept.remaining lead mark).filter fun entry => last.1 < entry.1 := by
    rw [Bucket.remaining, Bucket.remaining, List.filter_filter]
    refine List.filter_congr fun entry _ => ?_
    by_cases later : last.1 < entry.1
    · have past_mark : mark.all (fun m => decide (m < entry.1)) = true := by
        cases mark with
        | none => rfl
        | some m => exact decide_eq_true (lt_trans (passed m rfl) later)
      simp only [Option.all_some, decide_eq_true later, past_mark, Bool.and_true, Bool.true_and]
    · simp only [Option.all_some, decide_eq_false later, Bool.and_false, Bool.false_and]
  -- In key order, the others are all that comes after the last one shown.
  have sorted : KeySorted (shown ++ last :: others) := by
    rw [split]
    exact (keySorted_toList kept.objects).filter _
  obtain ⟨_, from_last, before_last⟩ := List.pairwise_append.mp sorted
  have after_last := (List.pairwise_cons.mp from_last).1
  have none_shown : shown.filter (fun entry => decide (last.1 < entry.1)) = [] := by
    refine List.filter_eq_nil_iff.mpr fun entry member less => ?_
    exact lt_asymm (before_last entry member last List.mem_cons_self) (by simpa using less)
  have all_others : others.filter (fun entry => decide (last.1 < entry.1)) = others :=
    List.filter_eq_self.mpr fun entry member => by simpa using after_last entry member
  rw [narrowed, ← split, List.filter_append, none_shown, List.nil_append,
    List.filter_cons_of_neg (by simp), all_others]

/-- A page shows objects from where its token says on and leaves the objects alone.
When there are others, its own token stands for where it ended. -/
theorem page_behaved (behaves : service.Behaves) {lead : String} {token mark : Option String}
    {page : ListPage}
    (genuine : service.Genuine (before ++ [⟨.listObjects lead token, .ok page⟩]))
    (starts : (Bucket.after before).position? token = some mark) :
    let turned := Bucket.after (before ++ [⟨.listObjects lead token, .ok page⟩])
    turned.objects = (Bucket.after before).objects ∧
      ∃ shown others, shown ++ others = (Bucket.after before).remaining lead mark ∧
        List.Forall₂ Summarizes (page.entries.filterMap summaryOf?) shown ∧
        if page.truncated then
          shown ≠ [] ∧ ∃ next last, page.nextToken = some next ∧
            turned.position? (some next) = some (some last) ∧
            turned.remaining lead (some last) = others
        else others = [] := by
  obtain ⟨_, ⟨shown, others, split, tells, cut⟩, ⟨rfl⟩⟩ := behaves.allows genuine mark starts
  rw [Bucket.after_snoc]
  have same : ((Bucket.after before).paged page).objects = (Bucket.after before).objects :=
    Bucket.objects_paged _ _
  refine ⟨same, shown, others, split, summaries_of_shown tells, ?_⟩
  split_ifs at cut ⊢ with truncated
  · obtain ⟨filled, next, handed⟩ := cut
    -- The token continues after the last object shown, whose key the last entry has.
    obtain ⟨earlier, last, rfl⟩ : ∃ earlier last, shown = earlier ++ [last] :=
      ⟨_, _, (List.dropLast_append_getLast filled).symm⟩
    have marked : ((Bucket.after before).paged page).marks next = some last.1 :=
      Bucket.marks_paged handed (lastKey_of_shown tells)
    have others_remain :
        ((Bucket.after before).paged page).remaining lead (some last.1) = others := by
      rw [Bucket.remaining, same]
      exact remaining_after_shown (by simpa using split)
    exact ⟨filled, next, last.1, handed, congrArg (Option.map some) marked, others_remain⟩
  · exact cut

/-- A listing that starts where a token says yields all objects from there on, when
there are pages enough. -/
theorem listPages_behaved (behaves : service.Behaves) {lead : String} {pages : Nat}
    {token mark : Option String} (genuine : service.Genuine before)
    (starts : (Bucket.after before).position? token = some mark)
    (enough : ((Bucket.after before).remaining lead mark).length < pages)
    {out : Except StorageError (List ObjectSummary)}
    (h : Ends (listPages (service.client region bucket) lead pages token) before out after) :
    service.Genuine after ∧ (Bucket.after after).objects = (Bucket.after before).objects ∧
      ∃ summaries, out = .ok summaries ∧
        List.Forall₂ Summarizes summaries ((Bucket.after before).remaining lead mark) := by
  induction pages generalizing before token mark out with
  | zero => cases enough
  | succ pages ih =>
    rcases ends_bind_iff.mp h with ⟨_, failed, rfl⟩ | ⟨page, between, asked, rest⟩
    · obtain ⟨_, ⟨⟩, _⟩ | ⟨error, ⟨rfl⟩, rfl⟩ := request_ends failed
      obtain ⟨_, _, ⟨⟩⟩ := behaves.allows (request_keeps _ _ _ failed genuine) mark starts
    obtain ⟨_, ⟨rfl⟩, rfl⟩ | ⟨_, ⟨⟩, _⟩ := request_ends asked
    have grown := request_keeps _ _ _ asked genuine
    obtain ⟨same, shown, others, split, summarized, cut⟩ := page_behaved behaves grown starts
    rw [← split] at enough ⊢
    cases truncated : page.truncated with
    | false =>
      rw [truncated, if_neg (by simp)] at cut
      simp only [truncated] at rest
      obtain ⟨rfl, rfl⟩ := ends_pure_iff.mp rest
      refine ⟨grown, same, _, rfl, ?_⟩
      rw [cut, List.append_nil]
      exact summarized
    | true =>
      rw [truncated, if_pos rfl] at cut
      obtain ⟨filled, next, last, handed, continued, others_remain⟩ := cut
      simp only [truncated, handed] at rest
      have fewer : others.length < pages := by
        have shows_one := List.length_pos_iff.mpr filled
        rw [List.length_append] at enough
        omega
      rcases ends_bind_iff.mp rest with ⟨error, failed, rfl⟩ | ⟨more, _, listed, ended⟩
      · obtain ⟨_, _, _, ⟨⟩, _⟩ := ih grown continued (others_remain ▸ fewer) failed
      · obtain ⟨rfl, rfl⟩ := ends_pure_iff.mp ended
        obtain ⟨grown_on, same_on, _, ⟨rfl⟩, summarized_on⟩ :=
          ih grown continued (others_remain ▸ fewer) listed
        rw [others_remain] at summarized_on
        exact ⟨grown_on, same_on.trans same, _, rfl, List.rel_append summarized summarized_on⟩

end MediaVault.S3.Store

import MediaVault.Proofs.Media.Agreement

/-!
# Why an object is not found

Opening, describing and deleting an object begin with a look-up in the store, and
all that can fail besides is the deletion itself.  The store in memory looks for the
bucket before it looks for the object; a remote one has only the answer of its
service to go by.
-/

namespace MediaVault

/-- The operations that need an object to be there. -/
inductive LookUp where
  | open
  | stat
  | describe (expiry : Duration)
  | delete

namespace LookUp

/-- The operation of the store with which it begins. -/
def operation : LookUp → StoreOperation
  | .open => .get
  | _ => .stat

/-- The call with which it begins at a remote service. -/
def call (key : String) : LookUp → S3.Call
  | .open => .getObject key
  | _ => .headObject key

/-- The code by which a remote service says that there is no such object. -/
def missingCode : LookUp → String
  | .open => "NoSuchKey"
  | _ => "NotFound"

end LookUp

namespace MediaService

section Runs

variable {m : Type → Type} [Monad m]

/-- Carry out an operation that needs the object under a key; what it yields is
dropped. -/
def lookUp (media : MediaService m) (key : String) : LookUp → ExceptT StorageError m Unit
  | .open => do let _ ← media.open key
  | .stat => do let _ ← media.stat key
  | .describe expiry => do let _ ← media.describe key expiry
  | .delete => media.delete key

/-- The look-up in the store with which the operation begins. -/
def firstLookUp (media : MediaService m) (key : String) : LookUp → ExceptT StorageError m Unit
  | .open => do let _ ← media.store.get key
  | _ => do let _ ← media.store.stat key

end Runs

section Failures

variable {σ : Type} {media : MediaService (StateM σ)} {key : String} {before after : σ}
  {error : StorageError}

theorem ends_dropped_iff {α : Type} {action : ExceptT StorageError (StateM σ) α} :
    Ends (do let _ ← action) before (.error error) after ↔ Ends action before (.error error) after := by
  refine ends_map_iff.trans ⟨?_, fun failed => ⟨_, failed, rfl⟩⟩
  rintro ⟨_ | _, ended, ⟨⟩⟩
  exact ended

/-- A description cannot fail once the object was found: it then goes without a URL. -/
theorem describe_fails_iff {expiry : Duration} :
    Ends (media.describe key expiry) before (.error error) after ↔
      Ends (media.store.stat key) before (.error error) after := by
  refine ends_bind_iff.trans ⟨?_, fun failed => .inl ⟨error, failed, rfl⟩⟩
  rintro (⟨stopped, failed, same⟩ | ⟨info, between, -, rest⟩)
  · exact Except.error.inj same ▸ failed
  rcases ends_bind_iff.mp rest with ⟨stopped, failed, -⟩ | ⟨answer, resolved, -, ended⟩
  · obtain ⟨_, _, ⟨⟩⟩ := ends_attempt_iff.mp failed
  · cases answer with
    | ok delivery => cases (ends_pure_iff.mp ended).1
    | error unresolved => cases (ends_pure_iff.mp ended).1

/-- An operation fails in its first look-up, or it is a deletion that the store
refused once the object was found. -/
theorem lookUp_fails_iff {op : LookUp} :
    Ends (media.lookUp key op) before (.error error) after ↔
      Ends (media.firstLookUp key op) before (.error error) after ∨
        op = .delete ∧ ∃ info between, Ends (media.store.stat key) before (.ok info) between ∧
          Ends (media.store.delete key) between (.error error) after := by
  cases op with
  | «open» => simp [lookUp, firstLookUp, MediaService.open]
  | stat => simp [lookUp, firstLookUp, MediaService.stat]
  | describe expiry =>
    simp only [lookUp, firstLookUp, ends_dropped_iff, describe_fails_iff, reduceCtorEq, false_and,
      or_false]
  | delete =>
    simp only [lookUp, firstLookUp, ends_dropped_iff, true_and]
    refine ends_bind_iff.trans (or_congr ⟨?_, fun failed => ⟨error, failed, rfl⟩⟩ Iff.rfl)
    rintro ⟨stopped, failed, same⟩
    exact Except.error.inj same ▸ failed

end Failures

end MediaService

/-! ## In memory -/

theorem Contents.find_eq_error_iff {contents : Contents} {key : String} {error : StorageError} :
    .error error = contents.find key ↔
      contents.objects[key]? = none ∧ error = .objectNotFound key := by
  rw [find]
  cases contents.objects[key]? <;> simp

theorem Contents.map_find_eq_error_iff {α : Type} {contents : Contents} {key : String}
    {describe : StoredObject → α} {error : StorageError} :
    .error error = (contents.find key).map describe ↔
      contents.objects[key]? = none ∧ error = .objectNotFound key := by
  rw [find]
  cases contents.objects[key]? <;> simp [Except.map]

namespace Site

variable {site : Site} {faults : Faults} {now : Timestamp} {contents after : Contents}
  {key : String} {op : LookUp} {error : StorageError}

/-- The bucket is looked for first, then the object. -/
theorem firstLookUp_fails_iff :
    Ends ((site.media faults now).firstLookUp key op) contents (.error error) after ↔
      after = contents ∧
        match site.obstacle? faults op.operation key contents with
        | some obstacle => error = obstacle
        | none => contents.objects[key]? = none ∧ error = .objectNotFound key := by
  have opened : Ends ((site.media faults now).store.get key) contents (.error error) after ↔
      after = contents ∧ match site.obstacle? faults .get key contents with
        | some obstacle => error = obstacle
        | none => contents.objects[key]? = none ∧ error = .objectNotFound key := by
    refine MemoryStore.get_ends_iff.trans (and_congr_right fun _ => ?_)
    rw [obstacle?]
    cases MemoryStore.obstacle? site.bucket faults .get key contents with
    | some obstacle => simp
    | none => exact Contents.find_eq_error_iff
  have described : Ends ((site.media faults now).store.stat key) contents (.error error) after ↔
      after = contents ∧ match site.obstacle? faults .stat key contents with
        | some obstacle => error = obstacle
        | none => contents.objects[key]? = none ∧ error = .objectNotFound key := by
    refine MemoryStore.stat_ends_iff.trans (and_congr_right fun _ => ?_)
    rw [obstacle?]
    cases MemoryStore.obstacle? site.bucket faults .stat key contents with
    | some obstacle => simp
    | none => exact Contents.map_find_eq_error_iff
  cases op with
  | «open» => exact MediaService.ends_dropped_iff.trans opened
  | stat | describe | delete => exact MediaService.ends_dropped_iff.trans described

/-- Nothing but a missing object makes an operation report one, and only in a bucket
that exists. -/
theorem missing_of_isNotFound
    (failed : Ends ((site.media faults now).lookUp key op) contents (.error error) after)
    (missing : error.isNotFound = true) :
    contents.created = true ∧ contents.objects[key]? = none ∧ error = .objectNotFound key := by
  have of_obstacle {operation : StoreOperation} {state : Contents}
      (hindered : site.obstacle? faults operation key state = some error) : False := by
    rw [obstacle?, MemoryStore.obstacle?] at hindered
    split at hindered
    · obtain rfl := Option.some.inj hindered
      cases missing
    · split at hindered
      · cases hindered
      · obtain rfl := Option.some.inj hindered
        cases missing
  rcases MediaService.lookUp_fails_iff.mp failed with first | ⟨-, info, between, -, refused⟩
  · obtain ⟨-, why⟩ := firstLookUp_fails_iff.mp first
    split at why
    next obstacle hindered =>
      subst why
      exact (of_obstacle hindered).elim
    next free => exact ⟨created_of_obstacle?_eq_none free, why⟩
  · -- The store in memory deletes whatever it is told to, unless something is in the way.
    have deleted := MemoryStore.delete_ends_iff.mp refused
    split at deleted
    next obstacle hindered =>
      obtain rfl := Except.error.inj deleted.1
      exact (of_obstacle hindered).elim
    next => cases deleted.1

/-- Without its bucket the store refuses every operation. -/
theorem lookUp_of_lost (lost : contents.created = false) :
    ∃ error : StorageError, error.isNotFound = false ∧
      (faults op.operation = none → error = .bucketNotFound site.bucket) ∧
      Ends ((site.media faults now).lookUp key op) contents (.error error) contents := by
  have fails {error : StorageError}
      (hindered : site.obstacle? faults op.operation key contents = some error) :
      Ends ((site.media faults now).lookUp key op) contents (.error error) contents := by
    refine MediaService.lookUp_fails_iff.mpr (.inl (firstLookUp_fails_iff.mpr ⟨rfl, ?_⟩))
    rw [hindered]
  cases fault : faults op.operation with
  | some reason =>
    exact ⟨.backend op.operation.name key reason, rfl, nofun,
      fails (by simp [obstacle?, MemoryStore.obstacle?, fault])⟩
  | none =>
    exact ⟨.bucketNotFound site.bucket, rfl, fun _ => rfl,
      fails (by simp [obstacle?, MemoryStore.obstacle?, fault, lost])⟩

end Site

/-! ## At a remote service -/

open S3 (CallError Exchange Service)

theorem S3.Store.lookUp_fails_iff {service : Service} {region bucket operation missing key : String}
    {call : S3.Call} {α : Type} {describe : call.Reply → α} {before after : List Exchange}
    {error : StorageError} :
    Ends (lookUp (service.client region bucket) operation missing key call describe) before
        (.error error) after ↔
      ∃ cause, service before call = .error cause ∧ error = lookupError operation missing key cause ∧
        after = before ++ [⟨call, .error cause⟩] := by
  have ended := lookUp_ends (ends_self (lookUp (service.client region bucket) operation missing key
    call describe) before)
  constructor
  · intro failed
    obtain ⟨rfl, looked⟩ := lookUp_ends failed
    cases answer : service before call with
    | ok reply =>
      rw [answer] at looked
      cases looked
    | error cause =>
      rw [answer] at looked
      exact ⟨cause, rfl, Except.error.inj looked, rfl⟩
  · rintro ⟨cause, answer, rfl, rfl⟩
    rw [answer] at ended
    exact Prod.ext ended.2 ended.1

namespace Site

variable {site : Site} {service : Service} {region : String} {maxPages : Nat}
  {log after : List Exchange} {key : String} {op : LookUp} {error : StorageError}

/-- The first look-up is one call, and it fails as the answer to this call says. -/
theorem remote_firstLookUp_fails_iff :
    Ends ((site.remote service region maxPages).firstLookUp key op) log (.error error) after ↔
      ∃ cause : CallError, service log (op.call key) = .error cause ∧
        error = S3.Store.lookupError op.operation.name op.missingCode key cause ∧
        after = log ++ [⟨op.call key, .error cause⟩] := by
  cases op with
  | «open» =>
    refine MediaService.ends_dropped_iff.trans ?_
    change Ends (S3.Store.get (service.client region site.bucket) key) _ _ _ ↔ _
    rw [S3.Store.get_eq]
    exact S3.Store.lookUp_fails_iff
  | stat | describe | delete =>
    refine MediaService.ends_dropped_iff.trans ?_
    change Ends (S3.Store.stat (service.client region site.bucket) key) _ _ _ ↔ _
    rw [S3.Store.stat_eq]
    exact S3.Store.lookUp_fails_iff

/-- A failure is that of a missing object exactly when the service answered the first
look-up with the code that this call has for a missing object or with status 404. -/
theorem remote_isNotFound_iff
    (failed : Ends ((site.remote service region maxPages).lookUp key op) log (.error error) after) :
    error.isNotFound = true ↔
      ∃ cause : CallError, service log (op.call key) = .error cause ∧
        cause.isMissing op.missingCode = true := by
  rcases MediaService.lookUp_fails_iff.mp failed with first | ⟨rfl, info, between, found, refused⟩
  · obtain ⟨cause, answer, rfl, rfl⟩ := remote_firstLookUp_fails_iff.mp first
    rw [answer, S3.Store.lookupError]
    cases missing : cause.isMissing op.missingCode <;> simp [missing, StorageError.isNotFound]
  · -- The object was found, and what the service says of a deletion is never taken for a miss.
    obtain ⟨_, ⟨⟩, _⟩ | ⟨cause, ⟨rfl⟩, rfl⟩ := S3.Store.request_ends refused
    change Ends (S3.Store.stat _ key) _ _ _ at found
    rw [S3.Store.stat_eq] at found
    obtain ⟨rfl, looked⟩ := S3.Store.lookUp_ends found
    constructor
    · intro claimed
      cases claimed
    · rintro ⟨other, answer, -⟩
      rw [show service log (.headObject key) = .error other from answer] at looked
      cases looked

/-- The service says that the bucket is gone.  With any status but 404 this is a failure
of the service; with 404 it counts as a missing object. -/
theorem remote_lookUp_of_lost {status : Nat} {text : String}
    (lost : service log (op.call key) = .error (.refused status (some "NoSuchBucket") text)) :
    Ends ((site.remote service region maxPages).lookUp key op) log
      (.error (if status = 404 then .objectNotFound key else .backend op.operation.name key text))
      (log ++ [⟨op.call key, .error (.refused status (some "NoSuchBucket") text)⟩]) := by
  refine MediaService.lookUp_fails_iff.mpr (.inl (remote_firstLookUp_fails_iff.mpr
    ⟨_, lost, ?_, rfl⟩))
  have unnamed : op.missingCode ≠ "NoSuchBucket" := by cases op <;> simp [LookUp.missingCode]
  simp [S3.Store.lookupError, CallError.isMissing, CallError.hasCode, CallError.hasStatus,
    CallError.text, unnamed.symm]

end Site

end MediaVault

import MediaVault.Proofs.Run
import MediaVault.Store.Faults
import MediaVault.Store.Memory

/-!
# The operations of the memory store

For each operation one lemma `…_ends` says what it yields and what it leaves
behind, also when the bucket is missing or failures are injected.  Nothing
after this module opens the store.
-/

namespace MediaVault

namespace Contents

/-- The contents with an object under a key. -/
def write (contents : Contents) (key : String) (object : StoredObject) : Contents :=
  { contents with objects := contents.objects.insert key object }

/-- The contents without the object under a key. -/
def drop (contents : Contents) (key : String) : Contents :=
  { contents with objects := contents.objects.erase key }

variable (contents : Contents) (key other : String) (object : StoredObject)

@[simp] theorem created_write : (contents.write key object).created = contents.created := rfl

@[simp] theorem created_drop : (contents.drop key).created = contents.created := rfl

@[simp] theorem getElem?_write :
    (contents.write key object).objects[other]? =
      if key = other then some object else contents.objects[other]? := by
  simp [write, Std.TreeMap.getElem?_insert]

@[simp] theorem getElem?_drop :
    (contents.drop key).objects[other]? =
      if key = other then none else contents.objects[other]? := by
  simp [drop, Std.TreeMap.getElem?_erase]

/-- The object under a key, or its absence. -/
def find (contents : Contents) (key : String) : Except StorageError StoredObject :=
  match contents.objects[key]? with
  | some object => .ok object
  | none => .error (.objectNotFound key)

end Contents

namespace MemoryStore

/-- The store with injected failures. -/
def faulty (bucket : String) (faults : Faults) (now : Timestamp) : ObjectStore (StateM Contents) :=
  (sequential bucket now).withFaults faults

/-- Why an operation on a key fails before it reaches the objects. -/
def obstacle? (bucket : String) (faults : Faults) (operation : StoreOperation) (key : String)
    (contents : Contents) : Option StorageError :=
  match faults operation with
  | some reason => some (.backend operation.name key reason)
  | none => if contents.created then none else some (.bucketNotFound bucket)

variable {bucket : String} {faults : Faults} {now : Timestamp} {contents after : Contents}
  {key : String}

theorem requireBucket_ends_iff {out : Except StorageError Unit} :
    Ends (requireBucket bucket Contents.shelf) contents out after ↔
      after = contents ∧
        out = if contents.created then .ok () else .error (.bucketNotFound bucket) := by
  refine ends_bind_lift_iff.trans ?_
  change Ends (if contents.created = true then _ else _) contents _ _ ↔ _
  split
  · exact ends_pure_iff.trans and_comm
  · exact ends_throw_iff.trans and_comm

theorem find_ends_iff {out : Except StorageError StoredObject} :
    Ends (find Contents.shelf key) contents out after ↔
      after = contents ∧ out = contents.find key := by
  refine ends_bind_lift_iff.trans ?_
  change Ends (match contents.objects[key]? with | some _ => _ | none => _) contents _ _ ↔ _
  rw [Contents.find]
  cases contents.objects[key]? with
  | some object => exact ends_pure_iff.trans and_comm
  | none => exact ends_throw_iff.trans and_comm

/-- An obstacle stops an operation that needs the bucket, with nothing changed. -/
theorem guarded_ends_iff {α : Type} {operation : StoreOperation}
    {action : ExceptT StorageError (StateM Contents) α} {out : Except StorageError α} :
    Ends (ObjectStore.guarded faults operation key
        (do requireBucket bucket Contents.shelf; action)) contents out after ↔
      match obstacle? bucket faults operation key contents with
      | some error => out = .error error ∧ after = contents
      | none => Ends action contents out after := by
  cases fault : faults operation with
  | some reason => simp only [ObjectStore.guarded, obstacle?, fault, ends_throw_iff]
  | none =>
    simp only [ObjectStore.guarded, obstacle?, fault, ends_bind_iff, requireBucket_ends_iff]
    cases contents.created with
    | false => simp [and_comm]
    | true => simp

/-! ## The operations -/

theorem createBucket_ends_iff {out : Except StorageError Unit} :
    Ends (faulty bucket faults now).createBucket contents out after ↔
      match faults .createBucket with
      | some reason => out = .error (.backend "create bucket" bucket reason) ∧ after = contents
      | none => out = .ok () ∧ after = { contents with created := true } := by
  change Ends (ObjectStore.guarded faults .createBucket bucket _) contents out after ↔ _
  rw [ObjectStore.guarded]
  cases faults .createBucket with
  | some reason => exact ends_throw_iff
  | none =>
    constructor
    · intro h
      obtain ⟨rfl, rfl⟩ := Prod.mk.inj h
      exact ⟨rfl, rfl⟩
    · rintro ⟨rfl, rfl⟩
      rfl

theorem get_ends_iff {out : Except StorageError StoredObject} :
    Ends ((faulty bucket faults now).get key) contents out after ↔
      after = contents ∧
        out = match obstacle? bucket faults .get key contents with
          | some error => .error error
          | none => contents.find key := by
  refine guarded_ends_iff.trans ?_
  cases obstacle? bucket faults .get key contents with
  | some error => exact and_comm
  | none => exact find_ends_iff

theorem stat_ends_iff {out : Except StorageError ObjectInfo} :
    Ends ((faulty bucket faults now).stat key) contents out after ↔
      after = contents ∧
        out = match obstacle? bucket faults .stat key contents with
          | some error => .error error
          | none => (contents.find key).map (·.info) := by
  refine guarded_ends_iff.trans ?_
  cases obstacle? bucket faults .stat key contents with
  | some error => exact and_comm
  | none =>
    refine ends_map_iff.trans ?_
    simp only [find_ends_iff]
    exact ⟨fun ⟨_, ⟨kept, found⟩, result⟩ => ⟨kept, found ▸ result⟩,
      fun ⟨kept, result⟩ => ⟨_, ⟨kept, rfl⟩, result⟩⟩

theorem list_ends_iff {lead : String} {out : Except StorageError (List ObjectSummary)} :
    Ends ((faulty bucket faults now).list lead) contents out after ↔
      after = contents ∧
        out = match obstacle? bucket faults .list lead contents with
          | some error => .error error
          | none => .ok ((contents.scan lead).map (·.info.summary)) := by
  refine guarded_ends_iff.trans ?_
  cases obstacle? bucket faults .list lead contents with
  | some error => exact and_comm
  | none => exact ends_pure_iff.trans and_comm

theorem delete_ends_iff {out : Except StorageError Unit} :
    Ends ((faulty bucket faults now).delete key) contents out after ↔
      match obstacle? bucket faults .delete key contents with
      | some error => out = .error error ∧ after = contents
      | none => out = .ok () ∧ after = contents.drop key := by
  refine guarded_ends_iff.trans ?_
  cases obstacle? bucket faults .delete key contents with
  | some error => exact Iff.rfl
  | none => exact ends_pure_iff

theorem put_ends_iff {payload : Payload} {options : PutOptions}
    {out : Except StorageError PutOutcome} :
    Ends ((faulty bucket faults now).put key payload options) contents out after ↔
      match obstacle? bucket faults .put key contents, payload.collect with
      | some error, _ => out = .error error ∧ after = contents
      | none, .error reason => out = .error (.io reason) ∧ after = contents
      | none, .ok bytes =>
        out = .ok { etag := Digest.md5Hex bytes, size := bytes.size } ∧
          after = contents.write key (objectOf key bytes options now) := by
  refine guarded_ends_iff.trans ?_
  cases obstacle? bucket faults .put key contents with
  | some error => exact Iff.rfl
  | none =>
    rw [put]
    cases payload.collect with
    | error reason => exact ends_throw_iff
    | ok bytes => exact ends_pure_iff

theorem get_quiet : Quiet ((faulty bucket faults now).get key) :=
  fun _ _ _ h => (get_ends_iff.mp h).1

theorem stat_quiet : Quiet ((faulty bucket faults now).stat key) :=
  fun _ _ _ h => (stat_ends_iff.mp h).1

theorem list_quiet {lead : String} : Quiet ((faulty bucket faults now).list lead) :=
  fun _ _ _ h => (list_ends_iff.mp h).1

theorem bucketExists_quiet : Quiet (faulty bucket faults now).bucketExists := by
  intro before out after h
  change Ends (ObjectStore.guarded faults .headBucket bucket _) before out after at h
  cases fault : faults .headBucket with
  | some reason =>
    rw [ObjectStore.guarded, fault] at h
    exact (ends_throw_iff.mp h).2
  | none =>
    rw [ObjectStore.guarded, fault] at h
    exact (Prod.mk.inj h).2.symm

end MemoryStore

end MediaVault

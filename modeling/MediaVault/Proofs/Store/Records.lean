import MediaVault.Proofs.Store.Memory

/-!
# What the store records of its objects

A store keeps a record beside the bytes of every object, and readers trust it.
`Faithful` says that the record is true.  Every operation of the store in memory
keeps it true for all objects, so it is true after any run.
-/

namespace MediaVault

/-- The record of an object under a key is true of its bytes. -/
structure StoredObject.Faithful (key : String) (object : StoredObject) : Prop where
  key_eq : object.info.key = key
  size_eq : object.info.size = object.bytes.size
  etag_eq : object.info.etag = Digest.md5Hex object.bytes

/-- The bucket exists, and all records in it are true. -/
structure Contents.Faithful (contents : Contents) : Prop where
  created : contents.created = true
  records : ∀ (key : String) (object : StoredObject),
    contents.objects[key]? = some object → object.Faithful key

namespace Contents.Faithful

variable {contents : Contents}

theorem empty : Contents.Faithful { created := true } where
  created := rfl
  records key object present := by simp at present

theorem write (faithful : contents.Faithful) {key : String} {object : StoredObject}
    (recorded : object.Faithful key) : (contents.write key object).Faithful where
  created := faithful.created
  records other found present := by
    rw [getElem?_write] at present
    split at present
    next same =>
      subst other
      exact Option.some.inj present ▸ recorded
    next => exact faithful.records other found present

theorem drop (faithful : contents.Faithful) (key : String) : (contents.drop key).Faithful where
  created := faithful.created
  records other found present := by
    rw [getElem?_drop] at present
    split at present
    next => cases present
    next => exact faithful.records other found present

end Contents.Faithful

/-! ## Runs of operations -/

/-- An operation of a store. -/
inductive StoreCall where
  | createBucket
  | bucketExists
  | put (key : String) (payload : Payload) (options : PutOptions)
  | get (key : String)
  | stat (key : String)
  | list (lead : String)
  | delete (key : String)

/-- What an operation does to the store; what it yields is dropped. -/
def ObjectStore.carryOut {m : Type → Type} [Monad m] (store : ObjectStore m) :
    StoreCall → ExceptT StorageError m Unit
  | .createBucket => store.createBucket
  | .bucketExists => do let _ ← store.bucketExists
  | .put key payload options => do let _ ← store.put key payload options
  | .get key => do let _ ← store.get key
  | .stat key => do let _ ← store.stat key
  | .list lead => do let _ ← store.list lead
  | .delete key => store.delete key

/-- An operation at its time, while some operations of the store fail. -/
structure StoreEvent where
  now : Timestamp
  faults : Faults
  call : StoreCall

/-- The contents after one more operation, whether it succeeded or not. -/
def Contents.afterEvent (bucket : String) (contents : Contents) (event : StoreEvent) : Contents :=
  (((MemoryStore.faulty bucket event.faults event.now).carryOut event.call).run.run contents).2

namespace MemoryStore

variable {bucket : String} {faults : Faults} {now : Timestamp} {key : String}

theorem faithful_objectOf (key : String) (bytes : ByteArray) (options : PutOptions)
    (now : Timestamp) : (objectOf key bytes options now).Faithful key where
  key_eq := rfl
  size_eq := rfl
  etag_eq := rfl

theorem createBucket_keeps : Keeps Contents.Faithful (faulty bucket faults now).createBucket := by
  intro before out after h faithful
  have created := createBucket_ends_iff.mp h
  split at created
  · exact created.2 ▸ faithful
  · exact created.2 ▸ ⟨rfl, faithful.records⟩

theorem put_keeps (payload : Payload) (options : PutOptions) :
    Keeps Contents.Faithful ((faulty bucket faults now).put key payload options) := by
  intro before out after h faithful
  have put := put_ends_iff.mp h
  split at put
  · exact put.2 ▸ faithful
  · exact put.2 ▸ faithful
  next bytes _ _ => exact put.2 ▸ faithful.write (faithful_objectOf key bytes options now)

theorem delete_keeps : Keeps Contents.Faithful ((faulty bucket faults now).delete key) := by
  intro before out after h faithful
  have deleted := delete_ends_iff.mp h
  split at deleted
  · exact deleted.2 ▸ faithful
  · exact deleted.2 ▸ faithful.drop key

theorem carryOut_keeps (call : StoreCall) :
    Keeps Contents.Faithful ((faulty bucket faults now).carryOut call) := by
  cases call with
  | createBucket => exact createBucket_keeps
  | bucketExists => exact bucketExists_quiet.keeps.bind fun _ => keeps_pure _
  | put key payload options => exact (put_keeps payload options).bind fun _ => keeps_pure _
  | get key => exact get_quiet.keeps.bind fun _ => keeps_pure _
  | stat key => exact stat_quiet.keeps.bind fun _ => keeps_pure _
  | list lead => exact list_quiet.keeps.bind fun _ => keeps_pure _
  | delete key => exact delete_keeps

end MemoryStore

namespace Contents.Faithful

theorem afterEvent {contents : Contents} (faithful : contents.Faithful) (bucket : String)
    (event : StoreEvent) : (contents.afterEvent bucket event).Faithful :=
  MemoryStore.carryOut_keeps event.call _ _ _ (ends_self _ contents) faithful

theorem afterEvents {contents : Contents} (faithful : contents.Faithful) (bucket : String)
    (events : List StoreEvent) : (events.foldl (Contents.afterEvent bucket) contents).Faithful := by
  induction events generalizing contents with
  | nil => exact faithful
  | cons event events ih => exact ih (faithful.afterEvent bucket event)

end Contents.Faithful

end MediaVault

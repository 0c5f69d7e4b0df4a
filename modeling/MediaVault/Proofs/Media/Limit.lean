import MediaVault.Proofs.Media.Agreement

/-!
# How long objects get

Nothing gets into a store but the payloads that are put, each of them whole or not at all.
So if no payload exceeds a limit, neither does any object, whatever the store is and however
often it fails.
-/

namespace MediaVault

/-- What a request may lead to keeps an invariant of the store, as long as no payload that is
put exceeds the limit. -/
structure ObjectStore.KeepsWithin {σ : Type} (store : ObjectStore (StateM σ)) (limit : Nat)
    (inv : σ → Prop) : Prop where
  bucketExists : Keeps inv store.bucketExists
  put : ∀ {key payload options}, (∀ bytes, payload.collect = .ok bytes → bytes.size ≤ limit) →
    Keeps inv (store.put key payload options)
  get : ∀ key, Keeps inv (store.get key)
  stat : ∀ key, Keeps inv (store.stat key)
  list : ∀ lead, Keeps inv (store.list lead)
  delete : ∀ key, Keeps inv (store.delete key)

/-! ## The store in memory -/

/-- No object exceeds the limit. -/
def Contents.Within (limit : Nat) (contents : Contents) : Prop :=
  ∀ (key : String) (object : StoredObject),
    contents.objects[key]? = some object → object.bytes.size ≤ limit

namespace Contents.Within

variable {limit : Nat} {contents : Contents}

theorem write (within : contents.Within limit) (key : String) {object : StoredObject}
    (small : object.bytes.size ≤ limit) : (contents.write key object).Within limit := by
  intro other found present
  rw [getElem?_write] at present
  split at present
  next => exact Option.some.inj present ▸ small
  next => exact within other found present

theorem drop (within : contents.Within limit) (key : String) :
    (contents.drop key).Within limit := by
  intro other found present
  rw [getElem?_drop] at present
  split at present
  next => cases present
  next => exact within other found present

end Contents.Within

theorem MemoryStore.keepsWithin (bucket : String) (faults : Faults) (now : Timestamp)
    (limit : Nat) : (faulty bucket faults now).KeepsWithin limit (Contents.Within limit) where
  bucketExists := bucketExists_quiet.keeps
  get _ := get_quiet.keeps
  stat _ := stat_quiet.keeps
  list _ := list_quiet.keeps
  put small before out after h within := by
    have put := put_ends_iff.mp h
    split at put
    · exact put.2 ▸ within
    · exact put.2 ▸ within
    next bytes _ read => exact put.2 ▸ within.write _ (small bytes read)
  delete key before out after h within := by
    have deleted := delete_ends_iff.mp h
    split at deleted
    · exact deleted.2 ▸ within
    · exact deleted.2 ▸ within.drop key

/-! ## A remote service -/

namespace S3

/-- No object that the exchanges make up exceeds the limit. -/
def LogWithin (limit : Nat) (log : List Exchange) : Prop :=
  ∀ (key : String) (kept : Kept),
    (Bucket.after log).objects[key]? = some kept → kept.body.size ≤ limit

variable {service : Service} {region bucket : String} {limit : Nat} {log : List Exchange}

/-- An exchange that stores nothing adds no object. -/
theorem LogWithin.snoc (within : LogWithin limit log) {exchange : Exchange}
    (idle : exchange.stores = false) : LogWithin limit (log ++ [exchange]) := by
  intro key kept present
  rw [Bucket.after_snoc] at present
  refine within key kept ?_
  obtain ⟨call, answer⟩ := exchange
  cases answer with
  | error error => cases call <;> exact present
  | ok reply =>
    cases call with
    | putObject | completeUpload => cases idle
    | deleteObject deleted =>
      rw [show ((Bucket.after log).take ⟨.deleteObject deleted, .ok reply⟩).objects =
        (Bucket.after log).objects.erase deleted from rfl, Std.TreeMap.getElem?_erase] at present
      split at present
      · cases present
      · exact present
    | listObjects lead token =>
      rwa [show ((Bucket.after log).take ⟨.listObjects lead token, .ok reply⟩).objects =
        (Bucket.after log).objects from Bucket.objects_paged _ _] at present
    | createUpload => cases reply <;> exact present
    | headBucket | createBucket | uploadPart | abortUpload | getObject | headObject => exact present

theorem send_keepsWithin {call : Call} (idle : ∀ answer, (Exchange.mk call answer).stores = false) :
    Keeps (LogWithin limit) ((service.client region bucket).send call) := by
  intro before out after h within
  obtain rfl := Store.send_ends h
  exact within.snoc (idle out)

theorem put_keepsWithin {key : String} {payload : Payload} {options : PutOptions}
    (small : ∀ bytes, payload.collect = .ok bytes → bytes.size ≤ limit) :
    Keeps (LogWithin limit) (Store.put (service.client region bucket) key payload options) := by
  intro before out after h within other kept present
  have left := Store.put_allOrNothing h
  cases out with
  | error error =>
    rw [show (Bucket.after after).objects = _ from left] at present
    exact within other kept present
  | ok outcome =>
    obtain ⟨bytes, read, -, stored⟩ := left
    rw [stored, Std.TreeMap.getElem?_insert] at present
    split at present
    · obtain rfl := Option.some.inj present
      exact small bytes read
    · exact within other kept present

theorem listPages_keepsWithin (lead : String) (pages : Nat) (token : Option String) :
    Keeps (LogWithin limit) (Store.listPages (service.client region bucket) lead pages token) := by
  have asked (token : Option String) : Keeps (LogWithin limit)
      (Store.request (service.client region bucket) "list" lead (.listObjects lead token)) :=
    (send_keepsWithin fun answer => by cases answer <;> rfl).mapError _
  induction pages generalizing token with
  | zero => exact keeps_throw _
  | succ pages ih =>
    refine (asked token).bind fun page => ?_
    split
    · exact (ih _).bind fun _ => keeps_pure _
    · exact keeps_pure _

theorem store_keepsWithin (service : Service) (region bucket : String) (maxPages limit : Nat) :
    (store (service.client region bucket) maxPages).KeepsWithin limit (LogWithin limit) where
  bucketExists := by
    refine (send_keepsWithin fun answer => by cases answer <;> rfl).recover fun answer => ?_
    split
    · exact keeps_pure true
    · split
      · exact keeps_pure false
      · exact keeps_throw _
  put := put_keepsWithin
  get key := by
    refine (send_keepsWithin fun answer => by cases answer <;> rfl).recover fun answer => ?_
    split
    · exact keeps_pure _
    · exact keeps_throw _
  stat key := by
    refine (send_keepsWithin fun answer => by cases answer <;> rfl).recover fun answer => ?_
    split
    · exact keeps_pure _
    · exact keeps_throw _
  list lead := listPages_keepsWithin lead maxPages none
  delete key := (send_keepsWithin fun answer => by cases answer <;> rfl).mapError _

end S3

/-! ## The service -/

/-- The store of a service keeps an invariant within the limit, and so do its URLs. -/
structure MediaService.KeepsWithin {σ : Type} (media : MediaService (StateM σ)) (limit : Nat)
    (inv : σ → Prop) : Prop where
  store : media.store.KeepsWithin limit inv
  deliveryUrl : ∀ key expiry, Keeps inv (media.deliveryUrl key expiry)

namespace MediaService.KeepsWithin

variable {σ : Type} {media : MediaService (StateM σ)} {limit : Nat} {inv : σ → Prop} {key : String}

/-- An upload puts what it was given, however much of it was read before. -/
theorem upload (keeps : media.KeepsWithin limit inv) {contentType : Option String}
    {body : List Chunk} (small : ∀ bytes, Chunk.collect body = .ok bytes → bytes.size ≤ limit) :
    Keeps inv (media.upload key contentType body) := by
  simp only [MediaService.upload]
  cases prepared : prepare media.extract (effectiveContentType contentType) body with
  | error reason => exact keeps_throw _
  | ok handed =>
    obtain ⟨payload, metadata⟩ := handed
    have same := (prepare_ok prepared).1
    refine (keeps.store.put (by rwa [same])).attempt.bind fun result => ?_
    cases result with
    | ok outcome => exact keeps_pure _
    | error source => exact keeps_throw _

theorem delete (keeps : media.KeepsWithin limit inv) : Keeps inv (media.delete key) :=
  (keeps.store.stat key).bind fun _ => keeps.store.delete key

theorem list (keeps : media.KeepsWithin limit inv) (lead : String) : Keeps inv (media.list lead) :=
  (keeps.store.list lead).bind fun _ => keeps_pure _

theorem describe (keeps : media.KeepsWithin limit inv) {expiry : Duration} :
    Keeps inv (media.describe key expiry) := by
  refine (keeps.store.stat key).bind fun info => ?_
  refine (keeps.deliveryUrl key expiry).attempt.bind fun answer => ?_
  cases answer with
  | ok delivery => exact keeps_pure _
  | error error => exact keeps_pure _

theorem ready (keeps : media.KeepsWithin limit inv) : Keeps inv media.ready := by
  refine keeps.store.bucketExists.bind fun found => ?_
  cases found with
  | true => exact keeps_pure _
  | false => exact keeps_throw _

end MediaService.KeepsWithin

namespace Site

theorem media_keepsWithin (site : Site) (faults : Faults) (now : Timestamp) (limit : Nat) :
    (site.media faults now).KeepsWithin limit (Contents.Within limit) where
  store := MemoryStore.keepsWithin site.bucket faults now limit
  deliveryUrl _ _ := deliveryUrl_quiet.keeps

theorem remote_keepsWithin (site : Site) (service : S3.Service) (region : String)
    (maxPages limit : Nat) :
    (site.remote service region maxPages).KeepsWithin limit (S3.LogWithin limit) where
  store := S3.store_keepsWithin service region site.bucket maxPages limit
  deliveryUrl key expiry before out after h within := by
    rw [(Prod.mk.inj (h.symm.trans (run_resolve site key expiry before))).2]
    exact within

end Site

end MediaVault

import MediaVault.Proofs.Media.Service
import MediaVault.Proofs.Object.Metadata

/-!
# Histories of the media service

A history is a list of operations, performed one after another on the memory
store.  What is stored under a key is settled by the last operation that
changed the key: `Mirrors` says so for all keys at once, and `Effect` lists
what a single operation can do.  The last section draws the conclusion for
readers.
-/

namespace MediaVault

/-! ## Operations and what they come to -/

/-- An operation of the service. -/
inductive Operation where
  | upload (key : String) (contentType : Option String) (body : List Chunk)
  | delete (key : String)
  | «open» (key : String)
  | stat (key : String)
  | describe (key : String) (expiry : Duration)
  | list (lead : String)

/-- What an operation came to. -/
inductive Report where
  | upload (outcome : Except UploadError UploadedObject)
  | delete (outcome : Except StorageError Unit)
  | «open» (outcome : Except StorageError StoredObject)
  | stat (outcome : Except StorageError ObjectInfo)
  | describe (outcome : Except StorageError ObjectMeta)
  | list (outcome : Except StorageError (List ListedFile))

/-- An operation at its time, while some operations of the store fail. -/
structure Event where
  now : Timestamp
  faults : Faults
  operation : Operation

/-- Perform an operation by a service, whatever its actions run over. -/
def MediaService.perform {m : Type → Type} [Monad m] (service : MediaService m) :
    Operation → m Report
  | .upload key contentType body => return .upload (← (service.upload key contentType body).run)
  | .delete key => return .delete (← (service.delete key).run)
  | .open key => return .open (← (service.open key).run)
  | .stat key => return .stat (← (service.stat key).run)
  | .describe key expiry => return .describe (← (service.describe key expiry).run)
  | .list lead => return .list (← (service.list lead).run)

namespace Site

/-- Perform the operation of an event. -/
def perform (site : Site) (event : Event) : StateM Contents Report :=
  (site.media event.faults event.now).perform event.operation

/-- Perform operations in order. -/
def play (site : Site) (events : List Event) : StateM Contents (List (Event × Report)) :=
  events.mapM fun event => return (event, ← site.perform event)

end Site

/-- The key that an operation changed; only what succeeds changes anything. -/
def changedKey? : Event × Report → Option String
  | (⟨_, _, .upload key _ _⟩, .upload (.ok _)) => some key
  | (⟨_, _, .delete key⟩, .delete (.ok _)) => some key
  | _ => none

/-- The last operation that changed a key. -/
def lastChange (records : List (Event × Report)) (key : String) : Option (Event × Report) :=
  (records.filter fun record => changedKey? record = some key).getLast?

theorem changedKey?_eq_some {record : Event × Report} {key : String}
    (changed : changedKey? record = some key) :
    (∃ now faults contentType body receipt,
        record = (⟨now, faults, .upload key contentType body⟩, .upload (.ok receipt))) ∨
      ∃ now faults, record = (⟨now, faults, .delete key⟩, .delete (.ok ())) := by
  unfold changedKey? at changed
  split at changed
  · obtain rfl := Option.some.inj changed
    exact .inl ⟨_, _, _, _, _, rfl⟩
  · obtain rfl := Option.some.inj changed
    exact .inr ⟨_, _, rfl⟩
  · cases changed

theorem lastChange_append (records : List (Event × Report)) (record : Event × Report)
    (key : String) :
    lastChange (records ++ [record]) key =
      if changedKey? record = some key then some record else lastChange records key := by
  by_cases changed : changedKey? record = some key
  · simp [lastChange, changed]
  · simp [lastChange, changed]

theorem lastChange_eq_some {records : List (Event × Report)} {key : String}
    {record : Event × Report} (last : lastChange records key = some record) :
    record ∈ records ∧ changedKey? record = some key := by
  have member := List.mem_of_getLast? last
  simpa using List.mem_filter.mp member

/-! ## What an operation can do -/

namespace Site

variable (site : Site)

/-- The ways in which an operation can change the contents. -/
inductive Effect (before : Contents) : Event × Report → Contents → Prop where
  | stored (now : Timestamp) (faults : Faults) (key : String) (contentType : Option String)
      (body : List Chunk) (bytes : ByteArray) (read : Chunk.collect body = .ok bytes) :
      Effect before
        (⟨now, faults, .upload key contentType body⟩,
          .upload (.ok (site.receipt key contentType bytes)))
        (before.write key (site.written now key contentType bytes))
  | deleted (now : Timestamp) (faults : Faults) (key : String) :
      Effect before (⟨now, faults, .delete key⟩, .delete (.ok ())) (before.drop key)
  | kept (record : Event × Report) (idle : changedKey? record = none) : Effect before record before

variable {site} in
theorem Effect.of_same {before after : Contents} {record : Event × Report} (same : after = before)
    (idle : changedKey? record = none) : site.Effect before record after :=
  same ▸ .kept record idle

variable {site} in
theorem effect_of_ends {ε α : Type} {event : Event} {before : Contents}
    {wrap : Except ε α → Report} {action : ExceptT ε (StateM Contents) α}
    (performs : site.perform event = do return wrap (← action.run))
    (allowed : ∀ out after, Ends action before out after →
      site.Effect before (event, wrap out) after) :
    site.Effect before (event, ((site.perform event).run before).1)
      ((site.perform event).run before).2 := by
  rw [performs]
  exact allowed _ _ (ends_self action before)

theorem perform_effect (event : Event) (before : Contents) :
    site.Effect before (event, ((site.perform event).run before).1)
      ((site.perform event).run before).2 := by
  obtain ⟨now, faults, operation⟩ := event
  cases operation with
  | upload key contentType body =>
    refine effect_of_ends rfl fun out after ended => ?_
    rcases upload_ends ended with ⟨bytes, read, _, rfl, rfl⟩ | ⟨same, error, rfl⟩
    · exact .stored now faults key contentType body bytes read
    · exact .of_same same rfl
  | delete key =>
    refine effect_of_ends rfl fun out after ended => ?_
    rcases delete_ends ended with ⟨object, _, rfl, rfl⟩ | ⟨same, error, rfl⟩
    · exact .deleted now faults key
    · exact .of_same same rfl
  | «open» key => exact effect_of_ends rfl fun _ _ ended => .of_same (open_quiet _ _ _ ended) rfl
  | stat key => exact effect_of_ends rfl fun _ _ ended => .of_same (stat_quiet _ _ _ ended) rfl
  | describe key expiry =>
    exact effect_of_ends rfl fun _ _ ended => .of_same (describe_quiet _ _ _ ended) rfl
  | list lead => exact effect_of_ends rfl fun _ _ ended => .of_same (list_quiet _ _ _ ended) rfl

/-! ## What a history leaves behind -/

/-- The object that the last change of a key left there. -/
def leftBehind (site : Site) : Event × Report → Option StoredObject
  | (⟨now, _, .upload key contentType body⟩, _) =>
    match Chunk.collect body with
    | .ok bytes => some (site.written now key contentType bytes)
    | .error _ => none
  | _ => none

/-- A successful upload read its body to the end and reported what it stored. -/
def Truthful (site : Site) : Event × Report → Prop
  | (⟨_, _, .upload key contentType body⟩, .upload (.ok receipt)) =>
    ∃ bytes, Chunk.collect body = .ok bytes ∧ receipt = site.receipt key contentType bytes
  | _ => True

variable {site} in
theorem Effect.truthful {before after : Contents} {record : Event × Report}
    (effect : site.Effect before record after) : site.Truthful record := by
  cases effect with
  | stored now faults key contentType body bytes read => exact ⟨bytes, read, rfl⟩
  | deleted now faults key => trivial
  | kept record idle =>
    unfold Truthful
    split
    · cases idle
    · trivial

/-- The contents are what the records make of them, and the records are true. -/
structure Mirrors (records : List (Event × Report)) (contents : Contents) : Prop where
  created : contents.created = true
  objects : ∀ key, contents.objects[key]? = (lastChange records key).bind site.leftBehind
  truthful : ∀ record ∈ records, site.Truthful record

theorem mirrors_nil : site.Mirrors [] { created := true } where
  created := rfl
  objects key := by simp [lastChange]
  truthful := by simp

variable {site} in
/-- The mirror is kept up by every operation. -/
theorem Mirrors.step {records : List (Event × Report)} {before after : Contents}
    {record : Event × Report} (mirrors : site.Mirrors records before)
    (effect : site.Effect before record after) : site.Mirrors (records ++ [record]) after := by
  have truthful : ∀ other ∈ records ++ [record], site.Truthful other := by
    intro other member
    rcases List.mem_append.mp member with earlier | added
    · exact mirrors.truthful other earlier
    · exact List.mem_singleton.mp added ▸ effect.truthful
  -- The record is the last change of the key it changed; other keys keep theirs.
  cases effect with
  | stored now faults key contentType body bytes read =>
    refine ⟨mirrors.created, fun other => ?_, truthful⟩
    rw [lastChange_append, Contents.getElem?_write, mirrors.objects]
    by_cases same : key = other
    · simp [changedKey?, same, leftBehind, read]
    · simp [changedKey?, same]
  | deleted now faults key =>
    refine ⟨mirrors.created, fun other => ?_, truthful⟩
    rw [lastChange_append, Contents.getElem?_drop, mirrors.objects]
    by_cases same : key = other
    · simp [changedKey?, same, leftBehind]
    · simp [changedKey?, same]
  | kept record idle =>
    refine ⟨mirrors.created, fun other => ?_, truthful⟩
    rw [lastChange_append, mirrors.objects, if_neg (by simp [idle])]

theorem play_cons (event : Event) (events : List Event) (before : Contents) :
    (site.play (event :: events)).run before =
      let step := (site.perform event).run before
      let rest := (site.play events).run step.2
      ((event, step.1) :: rest.1, rest.2) := by
  rw [play, List.mapM_cons]
  rfl

theorem play_mirrors (events : List Event) (records : List (Event × Report)) (before : Contents)
    (mirrors : site.Mirrors records before) :
    site.Mirrors (records ++ ((site.play events).run before).1)
      ((site.play events).run before).2 := by
  induction events generalizing records before with
  | nil => exact (List.append_nil records).symm ▸ mirrors
  | cons event events ih =>
    have next := ih _ _ (mirrors.step (site.perform_effect event before))
    rw [play_cons]
    simpa using next

/-! ## What readers are told -/

/-- The entry that an upload derives from an image of at most 5 MiB. -/
def derivedEntry? (contentType : String) (bytes : ByteArray) (name : String) : Option String :=
  if ContentType.isImage contentType = true ∧ bytes.size ≤ 5 * 1024 * 1024 then
    (site.extract contentType bytes).bind fun attributes =>
      if name = "x-blurhash" then some attributes.blurhash
      else if name = "x-width" then some (toString attributes.width.toNat)
      else if name = "x-height" then some (toString attributes.height.toNat)
      else none
  else none

/-- Readers of a key are told of an upload of `bytes`, in accord with its receipt. -/
structure Shows (contents : Contents) (key : String) (contentType : Option String)
    (bytes : ByteArray) (receipt : UploadedObject) (info : ObjectInfo) : Prop where
  opened : ∀ now, Ends ((site.media (fun _ => none) now).open key) contents
    (.ok { info := info, bytes := bytes }) contents
  known : ∀ now, Ends ((site.media (fun _ => none) now).stat key) contents (.ok info) contents
  described : ∀ now expiry, ∃ url, Ends ((site.media (fun _ => none) now).describe key expiry)
    contents (.ok (ObjectMeta.ofInfo info url)) contents
  key_eq : info.key = key ∧ receipt.object = key
  size_eq : info.size = bytes.size ∧ receipt.size = bytes.size
  etag_eq : info.etag = Digest.md5Hex bytes ∧ receipt.etag = Digest.md5Hex bytes
  contentType_eq :
    let trimmed := Text.trim (contentType.getD "")
    info.contentType = (if trimmed = "" then "application/octet-stream" else trimmed) ∧
      receipt.contentType = info.contentType
  cacheControl_eq : info.cacheControl = some "public, max-age=31536000, immutable"
  metadata_eq : ∀ name, info.userMetadata[name]? = site.derivedEntry? info.contentType bytes name

/-- Readers of a key are told that there is no object, and so is who deletes it. -/
structure Hides (contents : Contents) (key : String) : Prop where
  opened : ∀ now, Ends ((site.media (fun _ => none) now).open key) contents
    (.error (.objectNotFound key)) contents
  known : ∀ now, Ends ((site.media (fun _ => none) now).stat key) contents
    (.error (.objectNotFound key)) contents
  described : ∀ now expiry, Ends ((site.media (fun _ => none) now).describe key expiry) contents
    (.error (.objectNotFound key)) contents
  deleted : ∀ now, Ends ((site.media (fun _ => none) now).delete key) contents
    (.error (.objectNotFound key)) contents

theorem effectiveContentType_eq (contentType : Option String) :
    MediaService.effectiveContentType contentType =
      let trimmed := Text.trim (contentType.getD "")
      if trimmed = "" then "application/octet-stream" else trimmed := by
  cases contentType with
  | none => rfl
  | some text =>
    simp only [MediaService.effectiveContentType, Option.map_some, Option.getD_some,
      List.isEmpty_iff, String.toList_eq_nil_iff, ContentType.fallback]

theorem userMetadata_written (now : Timestamp) (key : String) (contentType : Option String)
    (bytes : ByteArray) (name : String) :
    (site.written now key contentType bytes).info.userMetadata[name]? =
      site.derivedEntry? (MediaService.effectiveContentType contentType) bytes name := by
  rw [written, MemoryStore.objectOf]
  -- Which content type it is does not matter here, and unfolding it is slow.
  generalize MediaService.effectiveContentType contentType = effective
  by_cases small_image : ContentType.isImage effective = true ∧ bytes.size ≤ 5 * 1024 * 1024
  · rw [MediaService.derived, MediaService.metadataSizeLimit, derivedEntry?, if_pos small_image,
      if_pos small_image]
    cases site.extract effective bytes with
    | none => rfl
    | some attributes =>
      simp only [Option.map_some, Option.getD_some, Option.bind_some,
        ImageAttributes.getElem?_lowerNames_toUserMetadata, ImageAttributes.getElem?_toUserMetadata]
  · rw [MediaService.derived, MediaService.metadataSizeLimit, derivedEntry?, if_neg small_image,
      if_neg small_image]
    rfl

variable {site} {contents : Contents} {key : String}

variable (site key) in
theorem open_ends_of_created (created : contents.created = true) (now : Timestamp) :
    Ends ((site.media (fun _ => none) now).open key) contents (contents.find key) contents := by
  refine MemoryStore.get_ends_iff.mpr ⟨rfl, ?_⟩
  simp [MemoryStore.obstacle?, created]

variable (site key) in
theorem stat_ends_of_created (created : contents.created = true) (now : Timestamp) :
    Ends ((site.media (fun _ => none) now).stat key) contents
      ((contents.find key).map (·.info)) contents := by
  refine MemoryStore.stat_ends_iff.mpr ⟨rfl, ?_⟩
  simp [MemoryStore.obstacle?, created]

theorem describe_ends_of_stat {faults : Faults} {now : Timestamp} {info : ObjectInfo}
    (known : Ends ((site.media faults now).stat key) contents (.ok info) contents)
    (expiry : Duration) :
    ∃ url, Ends ((site.media faults now).describe key expiry) contents
      (.ok (ObjectMeta.ofInfo info url)) contents := by
  have resolved := ends_self ((site.media faults now).deliveryUrl key expiry) contents
  rw [deliveryUrl_quiet _ _ _ resolved] at resolved
  cases answer : (((site.media faults now).deliveryUrl key expiry).run.run contents).1 with
  | ok delivery =>
    rw [answer] at resolved
    refine ⟨delivery.url, ends_bind_iff.mpr (.inr ⟨info, contents, known, ?_⟩)⟩
    exact ends_bind_iff.mpr (.inr ⟨_, _, ends_attempt_iff.mpr ⟨_, resolved, rfl⟩,
      ends_pure_iff.mpr ⟨rfl, rfl⟩⟩)
  | error error =>
    rw [answer] at resolved
    refine ⟨"", ends_bind_iff.mpr (.inr ⟨info, contents, known, ?_⟩)⟩
    exact ends_bind_iff.mpr (.inr ⟨_, _, ends_attempt_iff.mpr ⟨_, resolved, rfl⟩,
      ends_pure_iff.mpr ⟨rfl, rfl⟩⟩)

theorem shows_of_written (now : Timestamp) {contentType : Option String} {bytes : ByteArray}
    (created : contents.created = true)
    (stored : contents.objects[key]? = some (site.written now key contentType bytes)) :
    site.Shows contents key contentType bytes (site.receipt key contentType bytes)
      (site.written now key contentType bytes).info := by
  have found : contents.find key = .ok (site.written now key contentType bytes) := by
    rw [Contents.find, stored]
  have known (later : Timestamp) : Ends ((site.media (fun _ => none) later).stat key) contents
      (.ok (site.written now key contentType bytes).info) contents := by
    have ended := stat_ends_of_created site key created later
    rw [found] at ended
    exact ended
  have opened (later : Timestamp) : Ends ((site.media (fun _ => none) later).open key) contents
      (.ok (site.written now key contentType bytes)) contents := by
    have ended := open_ends_of_created site key created later
    rw [found] at ended
    exact ended
  exact
    { opened := opened
      known := known
      described := fun later expiry => describe_ends_of_stat (known later) expiry
      key_eq := ⟨rfl, rfl⟩
      size_eq := ⟨rfl, rfl⟩
      etag_eq := ⟨rfl, rfl⟩
      contentType_eq := ⟨effectiveContentType_eq contentType, rfl⟩
      cacheControl_eq := rfl
      metadata_eq := site.userMetadata_written now key contentType bytes }

theorem hides_of_absent (created : contents.created = true)
    (absent : contents.objects[key]? = none) : site.Hides contents key := by
  have missing : contents.find key = .error (.objectNotFound key) := by rw [Contents.find, absent]
  have known (now : Timestamp) : Ends ((site.media (fun _ => none) now).stat key) contents
      (.error (.objectNotFound key)) contents := by
    have ended := stat_ends_of_created site key created now
    rw [missing] at ended
    exact ended
  refine ⟨fun now => ?_, known, fun now expiry => ?_, fun now => ?_⟩
  · exact missing ▸ open_ends_of_created site key created now
  · exact ends_bind_iff.mpr (.inl ⟨_, known now, rfl⟩)
  · exact ends_bind_iff.mpr (.inl ⟨_, known now, rfl⟩)

/-- After any history, readers of a key are told of the last upload that
succeeded there, unless a deletion succeeded since. -/
theorem last_write_read (site : Site) (events : List Event) (key : String) :
    let run := (site.play events).run { created := true }
    match lastChange run.1 key with
    | some (⟨_, _, .upload _ contentType body⟩, .upload (.ok receipt)) =>
      ∃ pieces info, body = pieces.map .data ∧
        site.Shows run.2 key contentType (Bytes.join pieces) receipt info
    | _ => site.Hides run.2 key := by
  intro run
  have mirrors : site.Mirrors run.1 run.2 := site.play_mirrors events [] _ site.mirrors_nil
  have stored := mirrors.objects key
  cases last : lastChange run.1 key with
  | none => exact hides_of_absent mirrors.created (by rw [stored, last]; rfl)
  | some record =>
    obtain ⟨member, changed⟩ := lastChange_eq_some last
    rcases changedKey?_eq_some changed with
      ⟨now, faults, contentType, body, receipt, rfl⟩ | ⟨now, faults, rfl⟩
    · obtain ⟨bytes, read, rfl⟩ := mirrors.truthful _ member
      obtain ⟨pieces, rfl, rfl⟩ := Chunk.collect_eq_ok_iff.mp read
      refine ⟨pieces, _, rfl, shows_of_written now mirrors.created ?_⟩
      simp only [stored, last, Option.bind_some, leftBehind, read]
    · exact hides_of_absent mirrors.created (by rw [stored, last]; rfl)

end Site

end MediaVault

import MediaVault.Proofs.Concurrency.Ensemble
import MediaVault.Proofs.Media.Agreement

/-!
# Clients of one store

A client performs one operation of the media service.  Its program is the
service itself, with a store each access of which is a step of a thread; so
whatever other clients do in between, they do between two accesses.
-/

namespace MediaVault

/-- An operation and the time at which it stores what it stores. -/
structure Client where
  now : Timestamp
  operation : Operation

namespace Site

/-- The service of one client. -/
def client (site : Site) (now : Timestamp) : MediaService Thread where
  store := MemoryStore.onShelf site.bucket now Thread.shelf
  resolver :=
    .create site.cdn (site.publicSigner.map UrlSigner.ofFunction) (UrlSigner.ofFunction site.signer)
  extract := site.extract

/-- What a client runs. -/
def program (site : Site) (client : Client) : Thread Report :=
  (site.client client.now).perform client.operation

end Site

/-- What a look-up found, as an error when it found nothing. -/
def foundAt (key : String) (found : Option StoredObject) : Except StorageError StoredObject :=
  match found with
  | some object => .ok object
  | none => .error (.objectNotFound key)

/-- Where a client can stand after the accesses `made`, in a bucket that exists.
What writes is the last access of its client. -/
inductive Stands (site : Site) (now : Timestamp) : Operation → List Moment → Thread Report →
    Prop where
  | pending {operation : Operation} {made : List Moment} {call : Call}
      {next : call.Answer → Thread Report} (short : made.length < 4)
      (unwritten : ∀ moment ∈ made, moment.call.write? = none) :
      Stands site now operation made (.ask call next)
  | stored {key : String} {contentType : Option String} {body : List Chunk} {bytes : ByteArray}
      (read : Chunk.collect body = .ok bytes) :
      Stands site now (.upload key contentType body)
        [⟨.created, true⟩, ⟨.insert key (site.written now key contentType bytes), ()⟩]
        (.done (.upload (.ok (site.receipt key contentType bytes))))
  | unread {key : String} {contentType : Option String} {body : List Chunk} {reason : String}
      {made : List Moment} (failed : Chunk.collect body = .error reason)
      (unwritten : ∀ moment ∈ made, moment.call.write? = none) :
      Stands site now (.upload key contentType body) made (.done (.upload (.error (.read reason))))
  | deleted {key : String} {object : StoredObject} :
      Stands site now (.delete key)
        [⟨.created, true⟩, ⟨.lookup key, some object⟩, ⟨.created, true⟩, ⟨.remove key, ()⟩]
        (.done (.delete (.ok ())))
  | absent {key : String} :
      Stands site now (.delete key) [⟨.created, true⟩, ⟨.lookup key, none⟩]
        (.done (.delete (.error (.objectNotFound key))))
  | opened {key : String} {found : Option StoredObject} :
      Stands site now (.open key) [⟨.created, true⟩, ⟨.lookup key, found⟩]
        (.done (.open (foundAt key found)))
  | known {key : String} {found : Option StoredObject} :
      Stands site now (.stat key) [⟨.created, true⟩, ⟨.lookup key, found⟩]
        (.done (.stat ((foundAt key found).map (·.info))))
  | described {key : String} {expiry : Duration} {found : Option StoredObject} {url : String} :
      Stands site now (.describe key expiry) [⟨.created, true⟩, ⟨.lookup key, found⟩]
        (.done (.describe ((foundAt key found).map fun object => ObjectMeta.ofInfo object.info url)))
  | listed {lead : String} {objects : List StoredObject} :
      Stands site now (.list lead) [⟨.created, true⟩, ⟨.scan lead, objects⟩]
        (.done (.list (.ok (((objects.map (·.info.summary)).filter fun summary =>
          summary.key != lead).map ListedFile.ofSummary))))

open Thread (Path)

/-- The bucket was there whenever a client looked for it. -/
def Found (made : List Moment) : Prop := ∀ answer, ⟨.created, answer⟩ ∈ made → answer = true

variable {site : Site} {now : Timestamp} {made : List Moment} {rest : Thread Report} {key : String}

/-- A thread that looks for the bucket goes on as one that found it. -/
theorem Found.past {next : Bool → Thread Report} (found : Found made)
    (path : Path (.ask .created next) made rest) :
    (made = [] ∧ rest = .ask .created next) ∨
      ∃ others, made = ⟨.created, true⟩ :: others ∧ Path (next true) others rest ∧ Found others := by
  rcases path.ask_inv with begun | ⟨answer, others, rfl, later⟩
  · exact .inl begun
  · obtain rfl := found answer List.mem_cons_self
    exact .inr ⟨others, rfl, later, fun other made => found other (List.mem_cons_of_mem _ made)⟩

theorem stat_stands (path : Path ((site.client now).perform (.stat key)) made rest)
    (found : Found made) : Stands site now (.stat key) made rest := by
  rcases found.past path with ⟨rfl, rfl⟩ | ⟨others, rfl, looking, -⟩
  · exact .pending (by decide) (by simp)
  rcases looking.ask_inv with ⟨rfl, rfl⟩ | ⟨answer, others, rfl, ended⟩
  · exact .pending (by decide) (by simp [Call.write?])
  cases answer with
  | none =>
    obtain ⟨rfl, rfl⟩ := ended.done_inv
    exact .known
  | some object =>
    obtain ⟨rfl, rfl⟩ := ended.done_inv
    exact .known

theorem open_stands (path : Path ((site.client now).perform (.open key)) made rest)
    (found : Found made) : Stands site now (.open key) made rest := by
  rcases found.past path with ⟨rfl, rfl⟩ | ⟨others, rfl, looking, -⟩
  · exact .pending (by decide) (by simp)
  rcases looking.ask_inv with ⟨rfl, rfl⟩ | ⟨answer, others, rfl, ended⟩
  · exact .pending (by decide) (by simp [Call.write?])
  cases answer with
  | none =>
    obtain ⟨rfl, rfl⟩ := ended.done_inv
    exact .opened
  | some object =>
    obtain ⟨rfl, rfl⟩ := ended.done_inv
    exact .opened

theorem list_stands {lead : String}
    (path : Path ((site.client now).perform (.list lead)) made rest) (found : Found made) :
    Stands site now (.list lead) made rest := by
  rcases found.past path with ⟨rfl, rfl⟩ | ⟨others, rfl, scanning, -⟩
  · exact .pending (by decide) (by simp)
  rcases scanning.ask_inv with ⟨rfl, rfl⟩ | ⟨answer, others, rfl, ended⟩
  · exact .pending (by decide) (by simp [Call.write?])
  obtain ⟨rfl, rfl⟩ := ended.done_inv
  exact .listed

theorem delete_stands (path : Path ((site.client now).perform (.delete key)) made rest)
    (found : Found made) : Stands site now (.delete key) made rest := by
  rcases found.past path with ⟨rfl, rfl⟩ | ⟨others, rfl, looking, found⟩
  · exact .pending (by decide) (by simp)
  rcases looking.ask_inv with ⟨rfl, rfl⟩ | ⟨answer, others, rfl, knowing⟩
  · exact .pending (by decide) (by simp [Call.write?])
  cases answer with
  | none =>
    obtain ⟨rfl, rfl⟩ := knowing.done_inv
    exact .absent
  | some object =>
    rcases knowing.ask_inv with ⟨rfl, rfl⟩ | ⟨answer, others, rfl, removing⟩
    · exact .pending (by simp) (by simp [Call.write?])
    -- It looks for the bucket once more before it removes the object.
    obtain rfl := found answer (by simp)
    rcases removing.ask_inv with ⟨rfl, rfl⟩ | ⟨answer, others, rfl, ended⟩
    · exact .pending (by simp) (by simp [Call.write?])
    obtain ⟨rfl, rfl⟩ := ended.done_inv
    exact .deleted

/-- Making a delivery URL needs no moment. -/
theorem resolve_done (site : Site) (now : Timestamp) (key : String) (expiry : Duration) :
    ∃ result, (site.client now).resolver.resolve key expiry = ExceptT.mk (.done result) := by
  have internally (wanted : Duration) : ∃ result,
      (site.client now).resolver.resolveInternally key wanted = ExceptT.mk (.done result) := by
    refine ⟨(site.signer key wanted).map fun url => ⟨url, .signer, wanted⟩, ?_⟩
    change ExceptT.bindCont (m := Thread) _ (site.signer key wanted) = _
    cases site.signer key wanted <;> rfl
  rw [Resolver.resolve]
  simp only [Site.client, Resolver.create] at internally ⊢
  cases Resolver.usableCdn site.cdn with
  | some base => exact ⟨_, rfl⟩
  | none =>
    cases site.publicSigner with
    | none => exact internally _
    | some sign =>
      simp only [Option.map_some, UrlSigner.ofFunction]
      cases signed : sign key (Expiry.clamp expiry) with
      | ok url => exact ⟨_, rfl⟩
      | error error => exact internally _

theorem describe_stands {expiry : Duration}
    (path : Path ((site.client now).perform (.describe key expiry)) made rest)
    (found : Found made) : Stands site now (.describe key expiry) made rest := by
  rcases found.past path with ⟨rfl, rfl⟩ | ⟨others, rfl, looking, -⟩
  · exact .pending (by decide) (by simp)
  rcases looking.ask_inv with ⟨rfl, rfl⟩ | ⟨answer, others, rfl, ended⟩
  · exact .pending (by decide) (by simp [Call.write?])
  obtain ⟨result, resolved⟩ := resolve_done site now key expiry
  rw [resolved] at ended
  cases answer with
  | none =>
    obtain ⟨rfl, rfl⟩ := ended.done_inv
    exact @Stands.described site now key expiry none ""
  | some object =>
    cases result with
    | ok delivery =>
      obtain ⟨rfl, rfl⟩ := ended.done_inv
      exact .described
    | error error =>
      obtain ⟨rfl, rfl⟩ := ended.done_inv
      exact .described

theorem upload_stands {contentType : Option String} {body : List Chunk}
    (path : Path ((site.client now).perform (.upload key contentType body)) made rest)
    (found : Found made) : Stands site now (.upload key contentType body) made rest := by
  have program : (site.client now).perform (.upload key contentType body) =
      ((site.client now).upload key contentType body).run.bind fun outcome =>
        .done (.upload outcome) := rfl
  rw [program, MediaService.upload] at path
  cases prepared : MediaService.prepare (site.client now).extract
      (MediaService.effectiveContentType contentType) body with
  | error reason =>
    simp only [prepared] at path
    obtain ⟨rfl, rfl⟩ := path.done_inv
    exact .unread (MediaService.collect_of_prepare_error prepared) (by simp)
  | ok handed =>
    obtain ⟨payload, metadata⟩ := handed
    have stores (options : PutOptions) : (site.client now).store.put key payload options = (do
        MemoryStore.requireBucket site.bucket Thread.shelf
        MemoryStore.put Thread.shelf now key payload options) := rfl
    simp only [prepared, stores] at path
    obtain ⟨collected, derived⟩ := MediaService.prepare_ok prepared
    rcases found.past path with ⟨rfl, rfl⟩ | ⟨others, rfl, storing, -⟩
    · exact .pending (by decide) (by simp)
    cases read : payload.collect with
    | error reason =>
      simp only [MemoryStore.put, read] at storing
      obtain ⟨rfl, rfl⟩ := storing.done_inv
      cases payload with
      | buffered bytes => cases read
      | streamed chunks => exact .unread (collected ▸ read) (by simp [Call.write?])
    | ok bytes =>
      simp only [MemoryStore.put, read] at storing
      rcases storing.ask_inv with ⟨rfl, rfl⟩ | ⟨answer, others, rfl, ended⟩
      · exact .pending (by decide) (by simp [Call.write?])
      obtain ⟨rfl, rfl⟩ := ended.done_inv
      rw [collected] at read
      rw [derived bytes read]
      exact .stored read

theorem stands_of_path {operation : Operation}
    (path : Path ((site.client now).perform operation) made rest) (found : Found made) :
    Stands site now operation made rest := by
  cases operation with
  | upload key contentType body => exact upload_stands path found
  | delete key => exact delete_stands path found
  | «open» key => exact open_stands path found
  | stat key => exact stat_stands path found
  | describe key expiry => exact describe_stands path found
  | list lead => exact list_stands path found

theorem pending_of_stands {operation : Operation} {call : Call}
    {next : call.Answer → Thread Report}
    (stands : Stands site now operation made (.ask call next)) :
    made.length < 4 ∧ ∀ moment ∈ made, moment.call.write? = none := by
  cases stands with
  | pending short unwritten => exact ⟨short, unwritten⟩

/-! ## Runs of many clients -/

variable {ι : Type} [DecidableEq ι]

/-- Clients that have not begun yet. -/
def Site.ensemble (site : Site) (clients : ι → Client) (before : Contents) : Ensemble ι Report where
  contents := before
  threads client := site.program (clients client)

/-- The writes of one client. -/
def writesOf (client : ι) (log : List (ι × Moment)) : List (String × Option StoredObject) :=
  writes (log.filter fun entry => entry.1 = client)

/-- When the client looked under the key, it found what was last written there. -/
def Finds (before : Contents) (log : List (ι × Moment)) (client : ι) (key : String)
    (found : Option StoredObject) : Prop :=
  ∃ early late, log = early ++ (client, ⟨.lookup key, found⟩) :: late ∧
    found = lastWritten before early key

/-- When the client looked for keys, it found the objects of that moment. -/
def Scans (before : Contents) (log : List (ι × Moment)) (client : ι) (lead : String)
    (objects : List StoredObject) : Prop :=
  ∃ early late, log = early ++ (client, ⟨.scan lead, objects⟩) :: late ∧
    objects = (before.after early).scan lead

/-- The writes that an operation may come to: the whole object of an upload, or
the removal by a deletion. -/
inductive Makes (site : Site) : Client → String × Option StoredObject → Prop where
  | stored {now : Timestamp} {key : String} {contentType : Option String} {body : List Chunk}
      {bytes : ByteArray} (read : Chunk.collect body = .ok bytes) :
      Makes site ⟨now, .upload key contentType body⟩
        (key, some (site.written now key contentType bytes))
  | removed {now : Timestamp} {key : String} : Makes site ⟨now, .delete key⟩ (key, none)

/-- The key that an operation may write. -/
def Operation.target? : Operation → Option String
  | .upload key _ _ => some key
  | .delete key => some key
  | _ => none

theorem Makes.target {client : Client} {write : String × Option StoredObject}
    (makes : Makes site client write) : client.operation.target? = some write.1 := by
  cases makes <;> rfl

/-- What a client that is done was told, and what it wrote. -/
inductive Outcome (site : Site) (before : Contents) (log : List (ι × Moment)) (client : ι)
    (now : Timestamp) : Operation → Report → Prop where
  | stored {key : String} {contentType : Option String} {body : List Chunk} {bytes : ByteArray}
      (read : Chunk.collect body = .ok bytes)
      (wrote : writesOf client log = [(key, some (site.written now key contentType bytes))]) :
      Outcome site before log client now (.upload key contentType body)
        (.upload (.ok (site.receipt key contentType bytes)))
  | unread {key : String} {contentType : Option String} {body : List Chunk} {reason : String}
      (failed : Chunk.collect body = .error reason) (wrote : writesOf client log = []) :
      Outcome site before log client now (.upload key contentType body)
        (.upload (.error (.read reason)))
  | deleted {key : String} {object : StoredObject}
      (finds : Finds before log client key (some object))
      (wrote : writesOf client log = [(key, none)]) :
      Outcome site before log client now (.delete key) (.delete (.ok ()))
  | absent {key : String} (finds : Finds before log client key none)
      (wrote : writesOf client log = []) :
      Outcome site before log client now (.delete key) (.delete (.error (.objectNotFound key)))
  | opened {key : String} {found : Option StoredObject} (finds : Finds before log client key found)
      (wrote : writesOf client log = []) :
      Outcome site before log client now (.open key) (.open (foundAt key found))
  | known {key : String} {found : Option StoredObject} (finds : Finds before log client key found)
      (wrote : writesOf client log = []) :
      Outcome site before log client now (.stat key) (.stat ((foundAt key found).map (·.info)))
  | described {key : String} {expiry : Duration} {found : Option StoredObject} {url : String}
      (finds : Finds before log client key found) (wrote : writesOf client log = []) :
      Outcome site before log client now (.describe key expiry)
        (.describe ((foundAt key found).map fun object => ObjectMeta.ofInfo object.info url))
  | listed {lead : String} {objects : List StoredObject}
      (scans : Scans before log client lead objects) (wrote : writesOf client log = []) :
      Outcome site before log client now (.list lead)
        (.list (.ok (((objects.map (·.info.summary)).filter fun summary =>
          summary.key != lead).map ListedFile.ofSummary)))

theorem writesOf_eq (client : ι) (log : List (ι × Moment)) :
    writesOf client log = (Ensemble.momentsOf client log).filterMap (·.call.write?) := by
  rw [writesOf, writes, Ensemble.momentsOf, List.filterMap_map]
  rfl

section

variable {clients : ι → Client} {before : Contents} {ensemble : Ensemble ι Report} {client : ι}

open Ensemble (Recorded momentsOf)

theorem found_of_recorded
    (recorded : Recorded before (fun client => site.program (clients client)) ensemble)
    (created : before.created = true) (client : ι) : Found (momentsOf client ensemble.log) := by
  intro answer made
  obtain ⟨early, late, split, answered⟩ := recorded.answered made
  exact answered.trans (Contents.created_after created early)

theorem stands_of_recorded
    (recorded : Recorded before (fun client => site.program (clients client)) ensemble)
    (created : before.created = true) (client : ι) :
    Stands site (clients client).now (clients client).operation (momentsOf client ensemble.log)
      (ensemble.threads client) :=
  stands_of_path (recorded.paths client) (found_of_recorded recorded created client)

theorem finds_of_recorded
    (recorded : Recorded before (fun client => site.program (clients client)) ensemble)
    {found : Option StoredObject} (made : ⟨.lookup key, found⟩ ∈ momentsOf client ensemble.log) :
    Finds before ensemble.log client key found := by
  obtain ⟨early, late, split, answered⟩ := recorded.answered made
  exact ⟨early, late, split, answered.trans (before.objects_after early key)⟩

theorem outcome_of_stands
    (recorded : Recorded before (fun client => site.program (clients client)) ensemble)
    {operation : Operation} {report : Report} (same : momentsOf client ensemble.log = made)
    (stands : Stands site now operation made (.done report)) :
    Outcome site before ensemble.log client now operation report := by
  have wrote : writesOf client ensemble.log = made.filterMap (·.call.write?) :=
    same ▸ writesOf_eq client ensemble.log
  have finds {key : String} {found : Option StoredObject}
      (member : ⟨.lookup key, found⟩ ∈ made) : Finds before ensemble.log client key found :=
    finds_of_recorded recorded (same ▸ member)
  cases stands with
  | stored read => exact .stored read wrote
  | unread failed unwritten =>
    exact .unread failed (wrote.trans (List.filterMap_eq_nil_iff.mpr unwritten))
  | deleted => exact .deleted (finds (List.mem_cons_of_mem _ List.mem_cons_self)) wrote
  | absent => exact .absent (finds (List.mem_cons_of_mem _ List.mem_cons_self)) wrote
  | opened => exact .opened (finds (List.mem_cons_of_mem _ List.mem_cons_self)) wrote
  | known => exact .known (finds (List.mem_cons_of_mem _ List.mem_cons_self)) wrote
  | described => exact .described (finds (List.mem_cons_of_mem _ List.mem_cons_self)) wrote
  | listed =>
    obtain ⟨early, late, split, answered⟩ := recorded.answered (same ▸ List.mem_cons_of_mem _
      List.mem_cons_self)
    exact .listed ⟨early, late, split, answered⟩ wrote

theorem makes_of_stands {client : Client} {moment : Moment}
    {write : String × Option StoredObject}
    (stands : Stands site client.now client.operation made rest) (member : moment ∈ made)
    (wrote : moment.call.write? = some write) : Makes site client write := by
  obtain ⟨now, operation⟩ := client
  -- Only the last access of an upload or a deletion is a write.
  cases stands with
  | pending short unwritten => cases (unwritten _ member).symm.trans wrote
  | unread failed unwritten => cases (unwritten _ member).symm.trans wrote
  | stored read =>
    simp only [List.mem_cons, List.not_mem_nil, or_false] at member
    rcases member with rfl | rfl
    · cases wrote
    · cases wrote; exact .stored read
  | deleted =>
    simp only [List.mem_cons, List.not_mem_nil, or_false] at member
    rcases member with rfl | rfl | rfl | rfl
    · cases wrote
    · cases wrote
    · cases wrote
    · cases wrote; exact .removed
  | _ =>
    simp only [List.mem_cons, List.not_mem_nil, or_false] at member
    rcases member with rfl | rfl <;> cases wrote

theorem makes_of_mem_writes
    (recorded : Recorded before (fun client => site.program (clients client)) ensemble)
    (created : before.created = true) {write : String × Option StoredObject}
    (wrote : write ∈ writes ensemble.log) :
    ∃ client, write ∈ writesOf client ensemble.log ∧ Makes site (clients client) write := by
  obtain ⟨client, moment, member, own⟩ := mem_writes_iff.mp wrote
  have made := Ensemble.mem_momentsOf_iff.mpr member
  refine ⟨client, ?_, makes_of_stands (stands_of_recorded recorded created client) made own⟩
  rw [writesOf_eq]
  exact List.mem_filterMap.mpr ⟨moment, made, own⟩

theorem mem_writes_of_writesOf {log : List (ι × Moment)} {write : String × Option StoredObject}
    (own : write ∈ writesOf client log) : write ∈ writes log := by
  obtain ⟨maker, moment, member, wrote⟩ := mem_writes_iff.mp own
  exact mem_writes_iff.mpr ⟨maker, moment, List.mem_of_mem_filter member, wrote⟩

/-- What holds at every point of a run. -/
structure Coherent (site : Site) (clients : ι → Client) (before : Contents)
    (ensemble : Ensemble ι Report) : Prop where
  created : ensemble.contents.created = true
  /-- A key holds what was last inserted there, unless it was removed since. -/
  objects : ∀ key, ensemble.contents.objects[key]? = lastWritten before ensemble.log key
  /-- Every write is one of its client's own. -/
  writes : ∀ client, ∀ write ∈ writesOf client ensemble.log, Makes site (clients client) write
  /-- An object is the one that was there before, or that of one upload. -/
  whole : ∀ key object, ensemble.contents.objects[key]? = some object →
    before.objects[key]? = some object ∨ ∃ client, Makes site (clients client) (key, some object)
  /-- Who is not done has written nothing. -/
  unfinished : ∀ client, (∀ report, ensemble.threads client ≠ .done report) →
    writesOf client ensemble.log = []
  finished : ∀ client report, ensemble.threads client = .done report →
    Outcome site before ensemble.log client (clients client).now (clients client).operation report
  /-- Nobody who writes elsewhere can undo an upload. -/
  kept : ∀ client key contentType body receipt,
    (clients client).operation = .upload key contentType body →
    ensemble.threads client = .done (.upload (.ok receipt)) →
    (∀ other, other ≠ client → (clients other).operation.target? ≠ some key) →
    ∃ bytes, Chunk.collect body = .ok bytes ∧ ensemble.contents.objects[key]? =
      some (site.written (clients client).now key contentType bytes)

theorem coherent_of_recorded
    (recorded : Recorded before (fun client => site.program (clients client)) ensemble)
    (created : before.created = true) : Coherent site clients before ensemble where
  created := recorded.contents_eq ▸ Contents.created_after created ensemble.log
  objects key := recorded.contents_eq ▸ before.objects_after ensemble.log key
  writes client write own := by
    rw [writesOf_eq] at own
    obtain ⟨moment, made, wrote⟩ := List.mem_filterMap.mp own
    exact makes_of_stands (stands_of_recorded recorded created client) made wrote
  whole key object present := by
    rw [recorded.contents_eq, before.objects_after] at present
    rcases mem_writes_of_lastWritten present with old | wrote
    · exact .inl old
    · obtain ⟨client, _, makes⟩ := makes_of_mem_writes recorded created wrote
      exact .inr ⟨client, makes⟩
  unfinished client busy := by
    rw [writesOf_eq, List.filterMap_eq_nil_iff]
    cases stands : ensemble.threads client with
    | done report => exact absurd stands (busy report)
    | ask call next =>
      exact (pending_of_stands (stands ▸ stands_of_recorded recorded created client)).2
  finished client report ended :=
    outcome_of_stands recorded rfl (ended ▸ stands_of_recorded recorded created client)
  kept client key contentType body receipt operation ended others := by
    have outcome := outcome_of_stands recorded rfl
      (ended ▸ stands_of_recorded recorded created client)
    rw [operation] at outcome
    cases outcome with
    | stored read wrote =>
      refine ⟨_, read, ?_⟩
      rw [recorded.contents_eq, before.objects_after]
      refine lastWritten_eq_of_mem (mem_writes_of_writesOf (wrote ▸ List.mem_singleton_self _)) ?_
      intro write member same
      obtain ⟨maker, own, makes⟩ := makes_of_mem_writes recorded created member
      -- Nobody else writes this key, and this client wrote once.
      obtain rfl : maker = client := Decidable.byContradiction fun differ =>
        others maker differ (same ▸ makes.target)
      rw [wrote] at own
      rw [List.mem_singleton.mp own]

end

/-- Any number of clients, in any order of their accesses, and at any point: every
object is that of one upload, every reader is told what was last written, and
who had four turns is done. -/
theorem interleaved_operations_coherent (site : Site) (clients : ι → Client) (before : Contents)
    (created : before.created = true) (schedule : List ι) :
    let ensemble := (site.ensemble clients before).run schedule
    Coherent site clients before ensemble ∧
      ∀ client, 4 ≤ schedule.count client → ∃ report, ensemble.threads client = .done report := by
  intro ensemble
  have recorded : Ensemble.Recorded before (fun client => site.program (clients client)) ensemble :=
    (Ensemble.recorded_start before _).run schedule
  refine ⟨coherent_of_recorded recorded created, fun client turns => ?_⟩
  rcases Ensemble.run_moments (site.ensemble clients before) schedule client with
    finished | counted
  · exact finished
  cases stands : ensemble.threads client with
  | done report => exact ⟨report, rfl⟩
  | ask call next =>
    have short := (pending_of_stands (stands ▸ stands_of_recorded recorded created client)).1
    have none_yet : Ensemble.momentsOf client (site.ensemble clients before).log = [] := rfl
    rw [none_yet, List.length_nil, Nat.zero_add] at counted
    exact absurd (counted ▸ turns) (Nat.not_le_of_lt short)

/-- An upload that lands between the look-up and the removal of a deletion is
removed with what was there before. -/
theorem interleaved_operations_coherent_upload_in_deletion :
    let site : Site :=
      { bucket := "media", cdn := none, publicSigner := none, signer := fun key _ => .ok key
        extract := fun _ _ => none, maxUploadBytes := 1000 }
    let clients : Bool → Client := fun uploads =>
      if uploads then ⟨default, .upload "a" none [.data ⟨#[1, 2]⟩, .data ⟨#[3]⟩]⟩
      else ⟨default, .delete "a"⟩
    let before := ({ created := true } : Contents).write "a" default
    let ensemble := (site.ensemble clients before).run [false, false, true, true, false, false]
    before.created = true ∧ Coherent site clients before ensemble ∧
      ensemble.contents.objects["a"]?.isNone = true := by
  intro site clients before ensemble
  exact ⟨rfl, (interleaved_operations_coherent site clients before rfl _).1, by decide +kernel⟩

end MediaVault

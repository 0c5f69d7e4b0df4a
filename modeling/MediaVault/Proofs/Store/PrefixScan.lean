import MediaVault.Proofs.Store.Listing
import MediaVault.Proofs.Store.Records

/-!
# What a prefix finds

A new store holds nothing and refuses everything until its bucket is created; from
then on the records of its objects are true.  `made_cases` says so of any run of
operations, and with it the scan of the sorted map becomes a statement about keys:
a listing shows what starts with the text and what a look-up says of it.
-/

namespace MediaVault

/-- The event creates the bucket. -/
def StoreEvent.Creates (event : StoreEvent) : Prop :=
  event.call = .createBucket ∧ event.faults .createBucket = none

namespace Contents

/-- The contents of a new store after some operations, whether they succeeded or not. -/
def made (bucket : String) (events : List StoreEvent) : Contents :=
  events.foldl (afterEvent bucket) {}

/-! ## Until the bucket is created -/

theorem obstacle?_new (bucket : String) (faults : Faults) (operation : StoreOperation)
    (key : String) : ∃ error, MemoryStore.obstacle? bucket faults operation key {} = some error := by
  unfold MemoryStore.obstacle?
  cases faults operation with
  | some reason => exact ⟨_, rfl⟩
  | none => exact ⟨_, rfl⟩

theorem afterEvent_of_creates {event : StoreEvent} (creates : event.Creates) (bucket : String) :
    afterEvent bucket {} event = { created := true } := by
  obtain ⟨call, unhindered⟩ := creates
  have ended := MemoryStore.createBucket_ends_iff.mp (ends_self
    (MemoryStore.faulty bucket event.faults event.now).createBucket {})
  rw [unhindered] at ended
  unfold afterEvent
  rw [call]
  exact ended.2

/-- Nothing but creating the bucket leaves a trace in a new store. -/
theorem carryOut_keeps_new {event : StoreEvent} (idle : ¬ event.Creates) (bucket : String) :
    Keeps (· = {}) ((MemoryStore.faulty bucket event.faults event.now).carryOut event.call) := by
  cases call : event.call with
  | createBucket =>
    rintro before out after h rfl
    have created := MemoryStore.createBucket_ends_iff.mp h
    cases fault : event.faults .createBucket with
    | some reason =>
      rw [fault] at created
      exact created.2
    | none => exact absurd ⟨call, fault⟩ idle
  | bucketExists => exact MemoryStore.bucketExists_quiet.keeps.bind fun _ => keeps_pure _
  | put key payload options =>
    refine Keeps.bind ?_ fun _ => keeps_pure _
    rintro before out after h rfl
    obtain ⟨error, refused⟩ := obstacle?_new bucket event.faults .put key
    have put := MemoryStore.put_ends_iff.mp h
    rw [refused] at put
    exact put.2
  | get key => exact MemoryStore.get_quiet.keeps.bind fun _ => keeps_pure _
  | stat key => exact MemoryStore.stat_quiet.keeps.bind fun _ => keeps_pure _
  | list lead => exact MemoryStore.list_quiet.keeps.bind fun _ => keeps_pure _
  | delete key =>
    rintro before out after h rfl
    obtain ⟨error, refused⟩ := obstacle?_new bucket event.faults .delete key
    have deleted := MemoryStore.delete_ends_iff.mp h
    rw [refused] at deleted
    exact deleted.2

/-- A store is as it was when it was new, or its bucket was created and its records
are true. -/
theorem made_cases (bucket : String) (events : List StoreEvent) :
    (∃ event ∈ events, event.Creates) ∧ (made bucket events).Faithful ∨
      (¬ ∃ event ∈ events, event.Creates) ∧ made bucket events = {} := by
  induction events with
  | nil => exact .inr ⟨by simp, rfl⟩
  | cons event events ih =>
    by_cases creates : event.Creates
    · refine .inl ⟨⟨event, List.mem_cons_self, creates⟩, ?_⟩
      rw [made, List.foldl_cons, afterEvent_of_creates creates]
      exact Faithful.empty.afterEvents bucket events
    · have untouched : afterEvent bucket {} event = {} :=
        carryOut_keeps_new creates bucket {} _ _ (ends_self _ _) rfl
      have same : made bucket (event :: events) = made bucket events := by
        rw [made, List.foldl_cons, untouched, made]
      rw [same]
      simpa [creates] using ih

/-! ## From then on -/

/-- The summaries that a listing yields. -/
def summaries (contents : Contents) (lead : String) : List ObjectSummary :=
  (contents.scan lead).map (·.info.summary)

variable {contents : Contents} {lead : String}

/-- Every summary is one that a look-up of its key would tell. -/
theorem Faithful.mem_summaries_iff (faithful : contents.Faithful) {summary : ObjectSummary} :
    summary ∈ contents.summaries lead ↔ lead.toList <+: summary.key.toList ∧
      ∃ object, contents.objects[summary.key]? = some object ∧ object.info.summary = summary := by
  simp only [summaries, List.mem_map, mem_scan_iff, Text.startsWith_iff]
  constructor
  · rintro ⟨object, ⟨key, stored, starts⟩, rfl⟩
    have recorded : object.info.summary.key = key := (faithful.records key object stored).key_eq
    rw [recorded]
    exact ⟨starts, object, stored, rfl⟩
  · rintro ⟨starts, object, stored, same⟩
    exact ⟨object, ⟨summary.key, stored, starts⟩, same⟩

theorem Faithful.key_listed_iff (faithful : contents.Faithful) {key : String} :
    (∃ summary ∈ contents.summaries lead, summary.key = key) ↔
      contents.objects[key]?.isSome = true ∧ lead.toList <+: key.toList := by
  constructor
  · rintro ⟨summary, member, rfl⟩
    obtain ⟨starts, object, stored, -⟩ := faithful.mem_summaries_iff.mp member
    exact ⟨Option.isSome_of_eq_some stored, starts⟩
  · rintro ⟨stored, starts⟩
    obtain ⟨object, stored⟩ := Option.isSome_iff_exists.mp stored
    obtain rfl : object.info.summary.key = key := (faithful.records key object stored).key_eq
    exact ⟨_, faithful.mem_summaries_iff.mpr ⟨starts, object, stored, rfl⟩, rfl⟩

theorem Faithful.summaries_sorted (faithful : contents.Faithful) (lead : String) :
    (contents.summaries lead).Pairwise fun summary later =>
      Text.utf8 summary.key < Text.utf8 later.key := by
  rw [summaries, List.pairwise_map]
  exact scan_sorted (fun key object present => (faithful.records key object present).key_eq) lead

/-! ## The store without failures -/

variable {bucket : String} {now : Timestamp}

theorem list_ends_of_created (created : contents.created = true) (lead : String) :
    Ends ((MemoryStore.sequential bucket now).list lead) contents (.ok (contents.summaries lead))
      contents := by
  change Ends ((MemoryStore.faulty bucket (fun _ => none) now).list lead) contents _ contents
  apply MemoryStore.list_ends_iff.mpr
  simp [MemoryStore.obstacle?, created, summaries]

theorem stat_ends_of_stored (created : contents.created = true) {key : String}
    {object : StoredObject} (stored : contents.objects[key]? = some object) :
    Ends ((MemoryStore.sequential bucket now).stat key) contents (.ok object.info) contents := by
  change Ends ((MemoryStore.faulty bucket (fun _ => none) now).stat key) contents _ contents
  apply MemoryStore.stat_ends_iff.mpr
  simp [MemoryStore.obstacle?, created, find, stored, Except.map]

/-- After any operations on a new store, one of which created the bucket, a prefix
lists the stored keys that start with it and no others, once each and in the order of
their bytes, with the size, the tag and the time that a look-up of the key tells.
Where the bucket was never created nothing is stored, and listing fails. -/
theorem prefix_scan_exact (bucket : String) (events : List StoreEvent) (now : Timestamp)
    (lead : String) :
    let contents := made bucket events
    let store := MemoryStore.sequential bucket now
    ((∃ event ∈ events, event.Creates) →
      ∃ summaries, Ends (store.list lead) contents (.ok summaries) contents ∧
        (∀ key, (∃ summary ∈ summaries, summary.key = key) ↔
          contents.objects[key]?.isSome = true ∧ lead.toList <+: key.toList) ∧
        (summaries.Pairwise fun summary later =>
          Text.utf8 summary.key < Text.utf8 later.key) ∧
        ∀ summary ∈ summaries, ∃ info,
          Ends (store.stat summary.key) contents (.ok info) contents ∧
            summary.size = info.size ∧ summary.etag = info.etag ∧
            summary.lastModified = info.lastModified) ∧
    ((¬ ∃ event ∈ events, event.Creates) → contents.objects = ∅ ∧
      Ends (store.list lead) contents (.error (.bucketNotFound bucket)) contents) := by
  intro contents store
  rcases made_cases bucket events with ⟨creates, faithful⟩ | ⟨never, new⟩
  · refine ⟨fun _ => ?_, fun never => absurd creates never⟩
    have created := faithful.created
    refine ⟨_, list_ends_of_created created lead, fun key => faithful.key_listed_iff,
      faithful.summaries_sorted lead, fun summary member => ?_⟩
    obtain ⟨-, object, stored, same⟩ := faithful.mem_summaries_iff.mp member
    refine ⟨object.info, stat_ends_of_stored created stored, ?_⟩
    rw [← same]
    exact ⟨rfl, rfl, rfl⟩
  · refine ⟨fun creates => absurd creates never, fun _ => ?_⟩
    have reached : contents = {} := new
    rw [reached]
    exact ⟨rfl, rfl⟩

/-- Keys of several bytes, one that is the prefix itself, one deleted again and one
written before the bucket was there. -/
theorem prefix_scan_exact_of_accents :
    let event (call : StoreCall) : StoreEvent :=
      { now := default, faults := fun _ => none, call := call }
    let put (key : String) := event (.put key (.buffered "x".toUTF8) {})
    let events := [put "é/early", event .createBucket, put "é/b", put "é", put "f", put "é/a",
      put "", event (.delete "é/a")]
    (∃ event ∈ events, event.Creates) ∧ ∃ summaries,
      Ends ((MemoryStore.sequential "media" default).list "é") (made "media" events)
        (.ok summaries) (made "media" events) ∧
      (∀ key ∈ ["é", "é/b"], ∃ summary ∈ summaries, summary.key = key) ∧
      ∀ key ∈ ["", "f", "é/a", "é/early"], ¬ ∃ summary ∈ summaries, summary.key = key := by
  intro event put events
  have creates : ∃ event ∈ events, event.Creates :=
    ⟨event .createBucket, by simp [events], rfl, rfl⟩
  obtain ⟨summaries, listed, keys, -⟩ := (prefix_scan_exact "media" events default "é").1 creates
  have met : ∀ key ∈ ["é", "é/b"], (made "media" events).objects[key]?.isSome = true ∧
      "é".toList <+: key.toList := by
    decide +kernel
  have missed : ∀ key ∈ ["", "f", "é/a", "é/early"],
      ¬ ((made "media" events).objects[key]?.isSome = true ∧ "é".toList <+: key.toList) := by
    decide +kernel
  exact ⟨creates, summaries, listed, fun key member => (keys key).mpr (met key member),
    fun key member found => missed key member ((keys key).mp found)⟩

/-- On a store without its bucket there is no listing, not even an empty one. -/
theorem prefix_scan_without_bucket :
    ¬ ∃ summaries after, Ends ((MemoryStore.sequential "media" default).list "") (made "media" [])
      (.ok summaries) after := by
  rintro ⟨summaries, after, listed⟩
  cases listed

end Contents

end MediaVault

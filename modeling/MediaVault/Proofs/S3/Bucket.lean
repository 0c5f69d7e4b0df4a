import MediaVault.Proofs.S3.Exchange
import MediaVault.Proofs.Store.Listing

/-!
# A service that behaves as a bucket

A `Bucket` is what the exchanges so far make of an empty one.  `Allows` says
which answers to the next call are those of a bucket, and a service behaves when
all its answers are.  Nothing is said about tags, times, upload identifiers and
tokens, about how many keys a page shows, or about calls that make no sense.
-/

namespace MediaVault.S3

/-! ## Buckets -/

/-- An object as a bucket keeps it. -/
structure Kept where
  attributes : SentAttributes
  body : ByteArray

/-- An upload that was created and neither completed nor aborted. -/
structure OpenUpload where
  attributes : SentAttributes
  /-- The part that was sent last under a number. -/
  parts : Nat → Option SentPart := fun _ => none

namespace OpenUpload

/-- The upload with one more part. -/
def add (opened : OpenUpload) (number : Nat) (part : SentPart) : OpenUpload :=
  { opened with parts := fun other => if other = number then some part else opened.parts other }

/-- The parts listed are there, under these tags, and in the order of their
numbers. -/
structure Lists (opened : OpenUpload) (listed : List CompletedPart) : Prop where
  ascending : listed.Pairwise fun a b => a.number < b.number
  sent : ∀ part ∈ listed, (opened.parts part.number).map (·.etag) = some part.etag

/-- The object that the listed parts make up, in the order of their numbers. -/
def assemble (opened : OpenUpload) (listed : List CompletedPart) : Kept :=
  let numbers := (listed.map (·.number)).mergeSort
  { attributes := opened.attributes
    body := Bytes.join (numbers.filterMap fun number => (opened.parts number).map (·.body)) }

end OpenUpload

/-- The key of the object that a call stores or deletes. -/
def Call.written? : Call → Option String
  | .putObject key _ _ | .completeUpload key _ _ | .deleteObject key => some key
  | _ => none

/-- What a bucket holds. -/
structure Bucket where
  objects : Std.TreeMap String Kept := ∅
  uploads : (key upload : String) → Option OpenUpload := fun _ _ => none
  /-- The key at which the listing was cut short that a token continues. -/
  marks : (token : String) → Option String := fun _ => none

namespace Bucket

/-- The bucket with an upload in the given state. -/
def withUpload (bucket : Bucket) (key upload : String) (state : Option OpenUpload) : Bucket :=
  { bucket with
    uploads := fun k id => if k = key ∧ id = upload then state else bucket.uploads k id }

/-- The bucket after it handed out a page. -/
def paged (bucket : Bucket) (page : ListPage) : Bucket :=
  match page.nextToken, page.entries.getLast?.bind (·.key) with
  | some token, some last =>
    { bucket with marks := fun other => if other = token then some last else bucket.marks other }
  | _, _ => bucket

/-- The bucket after one more exchange.  Calls that fail leave no trace. -/
def take (bucket : Bucket) : Exchange → Bucket
  | ⟨.putObject key attributes body, .ok _⟩ =>
    { bucket with objects := bucket.objects.insert key ⟨attributes, body⟩ }
  | ⟨.createUpload key attributes, .ok (some upload)⟩ =>
    bucket.withUpload key upload (some { attributes := attributes })
  | ⟨.uploadPart key upload number body, .ok etag⟩ =>
    bucket.withUpload key upload ((bucket.uploads key upload).map (·.add number ⟨body, etag⟩))
  | ⟨.completeUpload key upload listed, .ok _⟩ =>
    match bucket.uploads key upload with
    | some opened =>
      { bucket.withUpload key upload none with
        objects := bucket.objects.insert key (opened.assemble listed) }
    | none => bucket
  | ⟨.abortUpload key upload, .ok _⟩ => bucket.withUpload key upload none
  | ⟨.deleteObject key, .ok _⟩ => { bucket with objects := bucket.objects.erase key }
  | ⟨.listObjects _ _, .ok page⟩ => bucket.paged page
  | _ => bucket

/-- What all exchanges make of an empty bucket. -/
def after (log : List Exchange) : Bucket :=
  log.foldl take {}

/-- The objects that a listing shows, from after a key on. -/
def remaining (bucket : Bucket) (lead : String) (mark : Option String) : List (String × Kept) :=
  bucket.objects.toList.filter fun entry =>
    Text.startsWith lead entry.1 && mark.all fun last => last < entry.1

/-- Where a listing starts: at the beginning, or where the token's page ended. -/
def position? (bucket : Bucket) : (token : Option String) → Option (Option String)
  | none => some none
  | some token => (bucket.marks token).map some

end Bucket

/-! ## Answers -/

/-- The reply tells what is kept.  Metadata comes in any order, with names in
lower case. -/
structure ObjectReply.Tells (reply : ObjectReply) (kept : Kept) : Prop where
  contentType : reply.contentType = some kept.attributes.contentType
  length : reply.length = some (kept.body.size : Int)
  cacheControl : reply.cacheControl = kept.attributes.cacheControl
  userMetadata : reply.userMetadata.Perm
    (kept.attributes.userMetadata.map fun entry => (Text.lower entry.1, entry.2))

/-- The entry is that of an object. -/
structure ListEntry.Tells (entry : ListEntry) (object : String × Kept) : Prop where
  key : entry.key = some object.1
  size : entry.size = some (object.2.body.size : Int)

/-- The page shows the first of the objects that remain, at least one of them
unless it is the last page, and hands out a token for the rest. -/
def ListPage.Shows (page : ListPage) (remaining : List (String × Kept)) : Prop :=
  ∃ shown others, shown ++ others = remaining ∧
    List.Forall₂ ListEntry.Tells page.entries shown ∧
    if page.truncated then shown ≠ [] ∧ ∃ token, page.nextToken = some token else others = []

/-- The answers that a bucket may give to a call. -/
def Bucket.Allows (bucket : Bucket) : (call : Call) → Except CallError call.Reply → Prop
  | .headBucket, answer => answer = .ok ()
  | .createBucket _, _ => True
  | .putObject key _ _, answer => key ≠ "" → ∃ etag, answer = .ok etag
  | .createUpload key _, answer => key ≠ "" → ∃ upload, answer = .ok (some upload)
  | .uploadPart key upload _ _, answer =>
    ∀ opened, bucket.uploads key upload = some opened → ∃ etag, answer = .ok etag
  | .completeUpload key upload listed, answer =>
    ∀ opened, bucket.uploads key upload = some opened → opened.Lists listed →
      ∃ etag, answer = .ok etag
  | .abortUpload _ _, _ => True
  | .getObject key, answer => key ≠ "" →
    match bucket.objects[key]? with
    | some kept => ∃ reply : ObjectReply, reply.Tells kept ∧ answer = .ok (reply, kept.body)
    | none => ∃ code text, answer = .error (.refused 404 code text)
  | .headObject key, answer => key ≠ "" →
    match bucket.objects[key]? with
    | some kept => ∃ reply : ObjectReply, reply.Tells kept ∧ answer = .ok reply
    | none => ∃ code text, answer = .error (.refused 404 code text)
  | .deleteObject key, answer => key ≠ "" → answer = .ok ()
  | .listObjects lead token, answer =>
    ∀ mark, bucket.position? token = some mark →
      ∃ page : ListPage, page.Shows (bucket.remaining lead mark) ∧ answer = .ok page

namespace Service

/-- The log is one that the service has answered itself. -/
def Genuine (service : Service) (log : List Exchange) : Prop :=
  ∀ earlier exchange later, log = earlier ++ exchange :: later →
    exchange.answer = service earlier exchange.call

/-- Whatever it was asked before, the service answers as a bucket. -/
def Behaves (service : Service) : Prop :=
  ∀ log, service.Genuine log → ∀ call, (Bucket.after log).Allows call (service log call)

variable {service : Service}

theorem genuine_nil : service.Genuine [] := by
  intro earlier exchange later split
  simp at split

theorem genuine_snoc {log : List Exchange} (genuine : service.Genuine log) (call : Call) :
    service.Genuine (log ++ [⟨call, service log call⟩]) := by
  intro earlier exchange later split
  -- The exchange singled out is the new one, or it stands in the log before.
  rcases List.eq_nil_or_concat later with rfl | ⟨others, last, rfl⟩
  · obtain ⟨rfl, single⟩ := List.append_inj' split rfl
    obtain rfl := List.singleton_inj.mp single
    rfl
  · have regrouped : log ++ [⟨call, service log call⟩] = earlier ++ exchange :: others ++ [last] := by
      simpa using split
    exact genuine earlier exchange others (List.append_inj' regrouped rfl).1

theorem Genuine.of_append {log later : List Exchange} (genuine : service.Genuine (log ++ later)) :
    service.Genuine log := by
  intro earlier exchange others split
  exact genuine earlier exchange (others ++ later) (by simp [split])

/-- Every answer in a genuine log of a service that behaves is that of a bucket. -/
theorem Behaves.allows (behaves : service.Behaves) {earlier later : List Exchange} {call : Call}
    {answer : Except CallError call.Reply}
    (genuine : service.Genuine (earlier ++ ⟨call, answer⟩ :: later)) :
    (Bucket.after earlier).Allows call answer := by
  have given : answer = service earlier call := genuine earlier ⟨call, answer⟩ later rfl
  rw [given]
  exact behaves earlier genuine.of_append call

end Service

/-! ## What the exchanges make of a bucket -/

namespace Bucket

theorem after_append (log calls : List Exchange) :
    after (log ++ calls) = calls.foldl take (after log) :=
  List.foldl_append

theorem after_snoc (log : List Exchange) (exchange : Exchange) :
    after (log ++ [exchange]) = (after log).take exchange :=
  after_append log [exchange]

@[simp] theorem uploads_withUpload (bucket : Bucket) (key upload : String)
    (state : Option OpenUpload) : (bucket.withUpload key upload state).uploads key upload = state :=
  if_pos ⟨rfl, rfl⟩

@[simp] theorem objects_paged (bucket : Bucket) (page : ListPage) :
    (bucket.paged page).objects = bucket.objects := by
  rw [paged]
  split <;> rfl

/-- A call leaves all objects alone but the one that it writes. -/
theorem getElem?_take {exchange : Exchange} {key : String}
    (unwritten : exchange.call.written? ≠ some key) (bucket : Bucket) :
    (bucket.take exchange).objects[key]? = bucket.objects[key]? := by
  have inserted {other : String} (apart : some other ≠ some key) (kept : Kept) :
      (bucket.objects.insert other kept)[key]? = bucket.objects[key]? := by
    rw [Std.TreeMap.getElem?_insert, if_neg (by simpa using apart)]
  have erased {other : String} (apart : some other ≠ some key) :
      (bucket.objects.erase other)[key]? = bucket.objects[key]? := by
    rw [Std.TreeMap.getElem?_erase, if_neg (by simpa using apart)]
  -- One case for each call that succeeds, in the order of `take`; failures leave no trace.
  unfold take
  split
  next put => exact inserted unwritten _
  next create => rfl
  next part => rfl
  next complete =>
    split
    next opened found => exact inserted unwritten _
    next => rfl
  next abort => rfl
  next delete => exact erased unwritten
  next list => rw [objects_paged]
  next => rfl

theorem getElem?_after_append {log later : List Exchange} {key : String}
    (unwritten : ∀ exchange ∈ later, exchange.call.written? ≠ some key) :
    (after (log ++ later)).objects[key]? = (after log).objects[key]? := by
  rw [after_append]
  generalize after log = bucket
  induction later generalizing bucket with
  | nil => rfl
  | cons exchange later ih =>
    have others := ih (fun other member => unwritten other (List.mem_cons_of_mem _ member))
      (bucket.take exchange)
    exact others.trans (getElem?_take (unwritten exchange List.mem_cons_self) bucket)

/-- The token of a page stands for the last key that the page shows. -/
theorem marks_paged {bucket : Bucket} {page : ListPage} {token last : String}
    (handed : page.nextToken = some token)
    (shown : page.entries.getLast?.bind (·.key) = some last) :
    (bucket.paged page).marks token = some last := by
  simp only [paged, handed, shown, if_true]

end Bucket

namespace OpenUpload

/-- The upload with parts under consecutive numbers. -/
def addAll (opened : OpenUpload) (parts : List SentPart) (first : Nat) : OpenUpload :=
  (parts.zipIdx first).foldl (fun opened entry => opened.add entry.2 entry.1) opened

theorem attributes_addAll (opened : OpenUpload) (parts : List SentPart) (first : Nat) :
    (opened.addAll parts first).attributes = opened.attributes := by
  induction parts generalizing opened first with
  | nil => rfl
  | cons part parts ih => exact ih (opened.add first part) (first + 1)

theorem parts_addAll (opened : OpenUpload) (parts : List SentPart) (first number : Nat) :
    (opened.addAll parts first).parts number =
      if first ≤ number ∧ number < first + parts.length then parts[number - first]?
      else opened.parts number := by
  induction parts generalizing opened first with
  | nil => simp [addAll, Nat.not_lt.mpr]
  | cons part parts ih =>
    refine (ih (opened.add first part) (first + 1)).trans ?_
    -- The parts that follow have higher numbers and leave this one in its place.
    by_cases here : number = first
    · subst number
      simp [add]
    · by_cases later : first + 1 ≤ number ∧ number < first + 1 + parts.length
      · have at_next : number - first = number - (first + 1) + 1 := by omega
        have among : first ≤ number ∧ number < first + (part :: parts).length := by
          simp only [List.length_cons]
          omega
        rw [if_pos later, if_pos among, at_next, List.getElem?_cons_succ]
      · have outside : ¬ (first ≤ number ∧ number < first + (part :: parts).length) := by
          simp only [List.length_cons]
          omega
        rw [if_neg later, if_neg outside]
        exact if_neg here

end OpenUpload

namespace Bucket

theorem foldl_take_exchanges {bucket : Bucket} {key upload : String} {opened : OpenUpload}
    (found : bucket.uploads key upload = some opened) (parts : List SentPart) (first : Nat) :
    let grown := (SentPart.exchanges key upload parts first).foldl take bucket
    grown.objects = bucket.objects ∧
      grown.uploads key upload = some (opened.addAll parts first) := by
  induction parts generalizing bucket opened first with
  | nil => exact ⟨rfl, found⟩
  | cons part parts ih =>
    have sent : (bucket.take ⟨.uploadPart key upload first part.body, .ok part.etag⟩).uploads
        key upload = some (opened.add first part) := by
      simp [take, found]
    exact ih sent (first + 1)

/-- After an upload was created, the parts sent for it are all that changed. -/
theorem after_sending (log : List Exchange) (key upload : String) (attributes : SentAttributes)
    (parts : List SentPart) :
    let grown := after (log ++
      ⟨.createUpload key attributes, .ok (some upload)⟩ :: SentPart.exchanges key upload parts 1)
    grown.objects = (after log).objects ∧
      grown.uploads key upload = some (OpenUpload.addAll { attributes := attributes } parts 1) := by
  have created : ((after log).take ⟨.createUpload key attributes, .ok (some upload)⟩).uploads
      key upload = some { attributes := attributes } := uploads_withUpload _ _ _ _
  rw [after_append]
  exact foldl_take_exchanges created parts 1

end Bucket

/-! ## Completing an upload -/

theorem SentPart.number_listed (parts : List SentPart) (first : Nat) :
    (SentPart.listed parts first).map (·.number) = List.range' first parts.length := by
  rw [SentPart.listed, List.map_map]
  exact List.zipIdx_map_snd first parts

theorem OpenUpload.parts_of_mem_zipIdx (opened : OpenUpload) {parts : List SentPart}
    {first number : Nat} {part : SentPart} (among : (part, number) ∈ parts.zipIdx first) :
    (opened.addAll parts first).parts number = some part := by
  obtain ⟨le, found⟩ := List.mk_mem_zipIdx_iff_le_and_getElem?_sub.mp among
  have bound := (List.getElem?_eq_some_iff.mp found).1
  rw [parts_addAll, if_pos (by omega), found]

/-- All parts that were sent may be listed. -/
theorem OpenUpload.lists_addAll (opened : OpenUpload) (parts : List SentPart) (first : Nat) :
    (opened.addAll parts first).Lists (SentPart.listed parts first) where
  ascending := by
    refine List.pairwise_map.mp ?_
    rw [SentPart.number_listed]
    exact List.pairwise_lt_range' 1
  sent := by
    intro listed member
    obtain ⟨⟨part, number⟩, among, rfl⟩ := List.mem_map.mp member
    simp [opened.parts_of_mem_zipIdx among]

/-- Listed completely, the parts make up the join of their bodies. -/
theorem OpenUpload.assemble_addAll (opened : OpenUpload) (parts : List SentPart) (first : Nat) :
    (opened.addAll parts first).assemble (SentPart.listed parts first) =
      { attributes := opened.attributes, body := Bytes.join (parts.map (·.body)) } := by
  -- The numbers were given out in ascending order, so sorting leaves the list as it is.
  have ascending : (List.range' first parts.length).Pairwise (· < ·) := List.pairwise_lt_range' 1
  have sorted : (List.range' first parts.length).mergeSort = List.range' first parts.length :=
    List.mergeSort_of_pairwise (ascending.imp fun less => decide_eq_true (Nat.le_of_lt less))
  have bodies : (List.range' first parts.length).filterMap
      (fun number => ((opened.addAll parts first).parts number).map (·.body)) =
      parts.map (·.body) := by
    calc (List.range' first parts.length).filterMap
          (fun number => ((opened.addAll parts first).parts number).map (·.body))
        = (parts.zipIdx first).filterMap
            (fun entry => ((opened.addAll parts first).parts entry.2).map (·.body)) := by
          rw [← List.zipIdx_map_snd, List.filterMap_map]
          rfl
      _ = (parts.zipIdx first).filterMap (fun entry => some entry.1.body) :=
          List.filterMap_congr fun entry among => by rw [opened.parts_of_mem_zipIdx among]; rfl
      _ = ((parts.zipIdx first).map (·.1)).map (·.body) := by
          rw [List.filterMap_eq_map', List.map_map]
          rfl
      _ = parts.map (·.body) := by rw [List.zipIdx_map_fst]
  simp only [assemble, SentPart.number_listed, sorted, bodies, attributes_addAll]

/-- Completed with all the parts that were sent for it, an upload makes up one object. -/
theorem Bucket.objects_of_completed (log : List Exchange) (key upload : String)
    (attributes : SentAttributes) (parts : List SentPart) (etag : Option String) :
    (after (log ++ ⟨.createUpload key attributes, .ok (some upload)⟩ ::
      (SentPart.exchanges key upload parts 1 ++
        [⟨.completeUpload key upload (SentPart.listed parts 1), .ok etag⟩]))).objects =
      (after log).objects.insert key ⟨attributes, Bytes.join (parts.map (·.body))⟩ := by
  obtain ⟨unchanged, found⟩ := after_sending log key upload attributes parts
  rw [← List.cons_append, ← List.append_assoc, after_snoc]
  simp only [take, found, unchanged, OpenUpload.assemble_addAll]

end MediaVault.S3

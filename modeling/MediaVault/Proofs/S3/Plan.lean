import MediaVault.Proofs.Pieces
import MediaVault.S3.Store

/-!
# What is sent for a stream

The calls that a streamed payload leads to are settled by its pieces alone.
`gather` groups the pieces into runs that make up a part each, `Plan.ofStream`
says what is sent, and `put_streamed` identifies the store's loop, which sends
while it reads, with carrying out the plan.
-/

namespace MediaVault.S3

/-! ## Grouping the pieces -/

/-- Group pieces into runs: the piece that fills a part closes its run.  The
second component is the run that is open at the end; `held` opens the first. -/
def gather (held : List ByteArray) : List ByteArray → List (List ByteArray) × List ByteArray
  | [] => ([], held)
  | piece :: rest =>
    if partSize ≤ (Bytes.join (held ++ [piece])).size then
      ((held ++ [piece]) :: (gather [] rest).1, (gather [] rest).2)
    else gather (held ++ [piece]) rest

/-- The run makes up a part, but would not without its last piece. -/
structure Closed (run : List ByteArray) : Prop where
  full : partSize ≤ (Bytes.join run).size
  short_before : (Bytes.join run.dropLast).size < partSize

theorem partSize_pos : 0 < partSize := by decide

theorem gather_flatten (held pieces : List ByteArray) :
    (gather held pieces).1.flatten ++ (gather held pieces).2 = held ++ pieces := by
  fun_induction gather held pieces with
  | case1 held => simp
  | case2 held piece rest full ih => simpa using ih
  | case3 held piece rest short ih => simpa using ih

theorem gather_closed (held pieces : List ByteArray) (short : (Bytes.join held).size < partSize) :
    ∀ run ∈ (gather held pieces).1, Closed run := by
  fun_induction gather held pieces with
  | case1 held => simp
  | case2 held piece rest full ih =>
    intro run member
    rcases List.mem_cons.mp member with rfl | member
    · exact ⟨full, by simpa using short⟩
    · exact ih (by simpa using partSize_pos) run member
  | case3 held piece rest notFull ih => exact ih (by omega)

theorem gather_open_short (held pieces : List ByteArray)
    (short : (Bytes.join held).size < partSize) :
    (Bytes.join (gather held pieces).2).size < partSize := by
  fun_induction gather held pieces with
  | case1 held => exact short
  | case2 held piece rest full ih => exact ih (by simpa using partSize_pos)
  | case3 held piece rest notFull ih => exact ih (by omega)

/-- A run is closed exactly when the payload makes up a part. -/
theorem gather_eq_nil_iff (held pieces : List ByteArray)
    (short : (Bytes.join held).size < partSize) :
    (gather held pieces).1 = [] ↔ (Bytes.join (held ++ pieces)).size < partSize := by
  have whole := congrArg (fun pieces => (Bytes.join pieces).size) (gather_flatten held pieces)
  simp only [Bytes.join_append, ByteArray.size_append] at whole ⊢
  have openShort := gather_open_short held pieces short
  constructor
  · intro empty
    rw [empty] at whole
    simp only [List.flatten_nil, Bytes.join_nil, ByteArray.size_empty] at whole
    omega
  · intro small
    -- A closed run alone is as large as a part.
    cases runs : (gather held pieces).1 with
    | nil => rfl
    | cons run others =>
      have := (gather_closed held pieces short run (by simp [runs])).full
      rw [runs] at whole
      simp only [List.flatten_cons, Bytes.join_append, ByteArray.size_append] at whole
      omega

/-- What is sent of the bytes that are left at the end. -/
def lastBody (bytes : ByteArray) : List ByteArray :=
  if bytes.isEmpty then [] else [bytes]

/-- The bodies of the parts for a stream that continues the pieces in `held`. -/
def bodiesOf (held : List ByteArray) (chunks : List Chunk) : List ByteArray :=
  (gather held (Chunk.pieces chunks)).1.map Bytes.join ++
    match Chunk.failure? chunks with
    | some _ => []
    | none => lastBody (Bytes.join (gather held (Chunk.pieces chunks)).2)

theorem bodiesOf_data (held : List ByteArray) (bytes : ByteArray) (rest : List Chunk) :
    bodiesOf held (.data bytes :: rest) =
      if partSize ≤ (Bytes.join (held ++ [bytes])).size then
        Bytes.join (held ++ [bytes]) :: bodiesOf [] rest
      else bodiesOf (held ++ [bytes]) rest := by
  by_cases full : partSize ≤ (Bytes.join (held ++ [bytes])).size
  · simp only [bodiesOf, Chunk.pieces, Chunk.failure?, gather, if_pos full, List.map_cons,
      List.cons_append]
  · simp only [bodiesOf, Chunk.pieces, Chunk.failure?, gather, if_neg full]

/-- The bodies cut a payload into parts: in order, without loss, and as soon as
a part is full. -/
structure Cuts (pieces bodies : List ByteArray) : Prop where
  whole : Bytes.join bodies = Bytes.join pieces
  filled : ∀ body ∈ bodies, body.size ≠ 0
  /-- Each body is a run of whole pieces; what is left over at the end is empty. -/
  runs : ∃ (runs : List (List ByteArray)) (rest : List ByteArray),
    runs.map Bytes.join = bodies ∧ runs.flatten ++ rest = pieces ∧
      Bytes.join rest = ByteArray.empty ∧ ∀ run ∈ runs.dropLast, Closed run

theorem cuts_of_runs {runs : List (List ByteArray)} {rest pieces : List ByteArray}
    (flat : runs.flatten ++ rest = pieces) (nothing : Bytes.join rest = ByteArray.empty)
    (filled : ∀ run ∈ runs, (Bytes.join run).size ≠ 0)
    (closed : ∀ run ∈ runs.dropLast, Closed run) :
    Cuts pieces (runs.map Bytes.join) where
  whole := by rw [← flat, Bytes.join_append, nothing, Bytes.join_flatten, ByteArray.append_empty]
  filled := by simpa using filled
  runs := ⟨runs, rest, rfl, flat, nothing, closed⟩

/-- A stream that does not fail is sent as a cut of its pieces. -/
theorem bodiesOf_cuts (pieces : List ByteArray) : Cuts pieces (bodiesOf [] (pieces.map .data)) := by
  have short : (Bytes.join []).size < partSize := by simpa using partSize_pos
  have closed := gather_closed [] pieces short
  have flat := gather_flatten [] pieces
  have filled : ∀ run ∈ (gather [] pieces).1, (Bytes.join run).size ≠ 0 := fun run member =>
    Nat.ne_of_gt (Nat.lt_of_lt_of_le partSize_pos (closed run member).full)
  simp only [bodiesOf, Chunk.pieces_map_data, Chunk.failure?_map_data, lastBody]
  split
  next empty =>
    rw [List.append_nil]
    refine cuts_of_runs flat ?_ filled fun run member =>
      closed run ((List.dropLast_sublist _).subset member)
    simpa [ByteArray.isEmpty, ByteArray.size_eq_zero_iff] using empty
  next more =>
    rw [← List.map_singleton, ← List.map_append]
    refine cuts_of_runs (by simpa using flat) Bytes.join_nil ?_ (by simpa using closed)
    intro run member
    rcases List.mem_append.mp member with member | member
    · exact filled run member
    · obtain rfl := List.mem_singleton.mp member
      simpa [ByteArray.isEmpty] using more

/-- The bodies of a stream that does not fail are its bytes. -/
theorem join_bodiesOf {chunks : List Chunk} (ended : Chunk.failure? chunks = none) :
    Bytes.join (bodiesOf [] chunks) = Bytes.join (Chunk.pieces chunks) := by
  rw [Chunk.eq_map_data_of_failure?_eq_none ended, Chunk.pieces_map_data]
  exact (bodiesOf_cuts _).whole

theorem closed_size_le {runs : List (List ByteArray)} (closed : ∀ run ∈ runs, Closed run) :
    runs.length * partSize ≤ (Bytes.join runs.flatten).size := by
  induction runs with
  | nil => simp
  | cons run runs ih =>
    have first := (closed run (by simp)).full
    have others := ih fun run member => closed run (by simp [member])
    rw [List.flatten_cons, Bytes.join_append, ByteArray.size_append, List.length_cons, Nat.succ_mul]
    omega

/-- All bodies of a cut but the last one are full parts. -/
theorem Cuts.parts_le {pieces bodies : List ByteArray} (cuts : Cuts pieces bodies) :
    (bodies.length - 1) * partSize ≤ (Bytes.join pieces).size := by
  obtain ⟨runs, rest, rfl, rfl, _, closed⟩ := cuts.runs
  have before_last := closed_size_le closed
  -- The runs before the last one make up a prefix of all runs.
  obtain ⟨last, split⟩ := List.dropLast_prefix runs
  rw [List.length_dropLast] at before_last
  rw [List.length_map, ← split, List.flatten_append, Bytes.join_append, Bytes.join_append,
    ByteArray.size_append, ByteArray.size_append, split]
  omega

/-! ## Sending parts -/

namespace Store

variable {m : Type → Type} [Monad m]

/-- Send bodies as parts, in order. -/
def sendEach (client : Client m) (key upload : String) :
    List ByteArray → Progress → ExceptT StorageError m Progress
  | [], p => pure p
  | body :: rest, p => do
    let p ← Progress.flush client key upload { p with waiting := body }
    sendEach client key upload rest p

variable (client : Client m) (key upload : String)

theorem flushFull_short {p : Progress} (short : p.waiting.size < partSize) :
    Progress.flushFull client key upload p = pure p :=
  if_neg (by omega)

variable [LawfulMonad m]

/-- A full part is sent before anything else happens. -/
theorem sendParts_full (chunks : List Chunk) {p : Progress} (full : partSize ≤ p.waiting.size) :
    sendParts client key upload chunks p =
      (do let p ← Progress.flush client key upload p; sendParts client key upload chunks p) := by
  have flushed : Progress.flushFull client key upload p = Progress.flush client key upload p :=
    if_pos full
  have emptied (parts : List CompletedPart) (size : Nat) :
      Progress.flushFull client key upload ⟨ByteArray.empty, parts, size⟩ =
        pure ⟨ByteArray.empty, parts, size⟩ :=
    flushFull_short client key upload partSize_pos
  match chunks with
  | [] => simp [sendParts, flushed, Progress.flush, emptied, Progress.flushLast]
  | .failed reason :: rest => simp [sendParts, flushed, Progress.flush, emptied]
  | .data bytes :: rest => simp [sendParts, flushed, Progress.flush, emptied]

/-- What waits has no influence on the parts that are sent next. -/
theorem sendEach_waiting {α : Type} {next : Progress → ExceptT StorageError m α}
    (blind : ∀ p waiting, next { p with waiting := waiting } = next p) (bodies : List ByteArray)
    (p : Progress) (waiting : ByteArray) :
    sendEach client key upload bodies { p with waiting := waiting } >>= next =
      sendEach client key upload bodies p >>= next := by
  cases bodies with
  | nil => simp [sendEach, blind]
  | cons body bodies => rfl

/-- Sending a stream in parts is sending the bodies it is cut into, up to its
first failure. -/
theorem sendParts_bind {α : Type} {next : Progress → ExceptT StorageError m α}
    (blind : ∀ p waiting, next { p with waiting := waiting } = next p) (chunks : List Chunk)
    (held : List ByteArray) (p : Progress) (short : (Bytes.join held).size < partSize)
    (waits : p.waiting = Bytes.join held) :
    sendParts client key upload chunks p >>= next =
      sendEach client key upload (bodiesOf held chunks) p >>= fun p =>
        match Chunk.failure? chunks with
        | some reason => throw (.io reason)
        | none => next p := by
  -- The invariant: what waits is the join of the pieces in `held`, and is no full part yet.
  induction chunks generalizing held p with
  | nil =>
    have notFull := flushFull_short client key upload (p := p) (waits ▸ short)
    simp only [sendParts, notFull, pure_bind, Progress.flushLast, waits, bodiesOf, Chunk.pieces,
      Chunk.failure?, gather, lastBody, List.map_nil, List.nil_append]
    split
    · rfl
    · simp [sendEach, ← waits]
  | cons chunk rest ih =>
    have notFull := flushFull_short client key upload (p := p) (waits ▸ short)
    cases chunk with
    | failed reason =>
      simp [sendParts, notFull, bodiesOf, Chunk.pieces, Chunk.failure?, gather, sendEach]
    | data bytes =>
      have grown : p.waiting ++ bytes = Bytes.join (held ++ [bytes]) := by simp [waits]
      simp only [sendParts, notFull, pure_bind, grown, bodiesOf_data, Chunk.failure?]
      split
      next full =>
        -- The store flushes on its next turn; the list of bodies is ahead by this one part.
        rw [sendParts_full client key upload rest full]
        simp only [sendEach, Progress.flush, bind_assoc, pure_bind]
        congr 1
        funext etag
        exact ih [] _ (by simpa using partSize_pos) rfl
      next more =>
        rw [ih (held ++ [bytes]) _ (by omega) rfl]
        refine sendEach_waiting client key upload (fun p waiting => ?_) _ p _
        cases Chunk.failure? rest with
        | some reason => rfl
        | none => exact blind p waiting

/-- Sending all of a stream, told by the bodies of its parts. -/
def sendBodies {m : Type → Type} [Monad m] (client : Client m) (key upload : String)
    (bodies : List ByteArray) (failure : Option String) : ExceptT StorageError m PutOutcome := do
  let p ← sendEach client key upload bodies { waiting := ByteArray.empty }
  match failure with
  | some reason => throw (.io reason)
  | none => do
    let etag ← request client "complete multipart" key
      (.completeUpload key upload p.parts.reverse)
    pure { etag := tagOf etag, size := p.size }

/-- Both send the first part, which is full already, and then the rest. -/
theorem sendAll_eq (first : ByteArray) (full : partSize ≤ first.size) (rest : List Chunk) :
    sendAll client key upload first rest =
      sendBodies client key upload (first :: bodiesOf [] rest) (Chunk.failure? rest) := by
  simp only [sendAll, sendBodies, sendParts_full client key upload rest (p := ⟨first, [], 0⟩) full,
    sendEach, Progress.flush, bind_assoc, pure_bind]
  congr 1
  funext etag
  refine (sendParts_bind client key upload (fun _ _ => rfl) rest [] _ ?_ rfl).trans ?_
  · simpa using partSize_pos
  · rfl

end Store

/-! ## The plan of an upload -/

/-- What a store sends for a stream. -/
inductive Plan where
  /-- Everything at once. -/
  | whole (bytes : ByteArray)
  /-- Nothing: the stream failed before a part was full. -/
  | unread (reason : String)
  /-- These bodies as parts, until the stream ends or fails. -/
  | parts (bodies : List ByteArray) (failure : Option String)

namespace Plan

/-- The plan for a stream that continues the pieces in `held`.  Only the number
of bytes decides between the ways. -/
def ofStream (held : List ByteArray) (chunks : List Chunk) : Plan :=
  if (Bytes.join (held ++ Chunk.pieces chunks)).size < partSize then
    match Chunk.failure? chunks with
    | none => whole (Bytes.join (held ++ Chunk.pieces chunks))
    | some reason => unread reason
  else parts (bodiesOf held chunks) (Chunk.failure? chunks)

variable {m : Type → Type} [Monad m]

/-- Do what the plan says. -/
def carryOut (client : Client m) (key : String) (options : PutOptions) :
    Plan → ExceptT StorageError m PutOutcome
  | whole bytes => Store.putWhole client key bytes options
  | unread reason => throw (.io reason)
  | parts bodies failure => do
    match ← Store.request client "create multipart" key
      (.createUpload key (Store.sent options)) with
    | none => throw (.backend "create multipart" key "missing upload id")
    | some upload =>
      match ← attempt (Store.sendBodies client key upload bodies failure) with
      | .ok outcome => pure outcome
      | .error error => do
        let _ : Except CallError Unit ← attempt (client.send (.abortUpload key upload))
        throw error

end Plan

namespace Store

variable {m : Type → Type} [Monad m] [LawfulMonad m] (client : Client m) (key : String)
  (options : PutOptions)

omit [LawfulMonad m] in
theorem putStream_full (chunks : List Chunk) {held : ByteArray} (full : partSize ≤ held.size) :
    putStream client key options chunks held = putInParts client key held chunks options := by
  cases chunks with
  | nil => exact if_pos full
  | cons chunk rest => exact if_pos full

theorem putStream_eq (chunks : List Chunk) (held : List ByteArray)
    (short : (Bytes.join held).size < partSize) :
    putStream client key options chunks (Bytes.join held) =
      (Plan.ofStream held chunks).carryOut client key options := by
  have notFull : ¬ partSize ≤ (Bytes.join held).size := by omega
  induction chunks generalizing held with
  | nil =>
    simp [putStream, Plan.ofStream, Chunk.pieces, Chunk.failure?, notFull, short, Plan.carryOut]
  | cons chunk rest ih =>
    cases chunk with
    | failed reason =>
      simp [putStream, notFull, Plan.ofStream, Chunk.pieces, Chunk.failure?, short, Plan.carryOut]
    | data bytes =>
      have grown : Bytes.join held ++ bytes = Bytes.join (held ++ [bytes]) := by simp
      have regrouped :
          held ++ [bytes] ++ Chunk.pieces rest = held ++ bytes :: Chunk.pieces rest := by
        simp
      simp only [putStream, if_neg notFull, grown, Plan.ofStream, Chunk.pieces, Chunk.failure?,
        ← regrouped, bodiesOf_data]
      by_cases full : partSize ≤ (Bytes.join (held ++ [bytes])).size
      · have reached : ¬ (Bytes.join (held ++ [bytes] ++ Chunk.pieces rest)).size < partSize := by
          rw [Bytes.join_append, ByteArray.size_append]
          omega
        rw [putStream_full client key options rest full, if_neg reached, if_pos full]
        simp only [putInParts, sendAll_eq client key _ _ full]
        rfl
      · rw [if_neg full]
        exact ih (held ++ [bytes]) (by omega) full

/-- The store's loop carries out the plan for its stream. -/
theorem put_streamed (chunks : List Chunk) :
    put client key (.streamed chunks) options =
      (Plan.ofStream [] chunks).carryOut client key options :=
  putStream_eq client key options chunks [] (by simpa using partSize_pos)

end Store

end MediaVault.S3

import MediaVault.Payload

/-!
# Streams as pieces

What a stream of chunks delivers is a list of pieces and, perhaps, a first
failure.  `collect_eq` says that reading a stream is joining its pieces.
-/

namespace MediaVault

namespace Bytes

/-- The pieces, one after another. -/
def join (pieces : List ByteArray) : ByteArray :=
  pieces.foldr (· ++ ·) ByteArray.empty

@[simp] theorem join_nil : join [] = ByteArray.empty := rfl

@[simp] theorem join_cons (piece : ByteArray) (pieces : List ByteArray) :
    join (piece :: pieces) = piece ++ join pieces := rfl

@[simp] theorem join_append (pieces others : List ByteArray) :
    join (pieces ++ others) = join pieces ++ join others := by
  induction pieces with
  | nil => simp
  | cons piece pieces ih => simp [ih, ByteArray.append_assoc]

theorem join_flatten (runs : List (List ByteArray)) : join runs.flatten = join (runs.map join) := by
  induction runs with
  | nil => rfl
  | cons run runs ih => simp [ih]

end Bytes

namespace Chunk

/-- The pieces that arrive before the first failure. -/
def pieces : List Chunk → List ByteArray
  | .data bytes :: rest => bytes :: pieces rest
  | _ => []

/-- The first failure. -/
def failure? : List Chunk → Option String
  | [] => none
  | .failed reason :: _ => some reason
  | .data _ :: rest => failure? rest

@[simp] theorem pieces_map_data (arrived : List ByteArray) :
    pieces (arrived.map .data) = arrived := by
  induction arrived with
  | nil => rfl
  | cons piece arrived ih => simp [pieces, ih]

@[simp] theorem failure?_map_data (arrived : List ByteArray) :
    failure? (arrived.map .data) = none := by
  induction arrived with
  | nil => rfl
  | cons piece arrived ih => simpa [failure?] using ih

theorem pieces_data_append (arrived : List ByteArray) (rest : List Chunk) :
    pieces (arrived.map .data ++ rest) = arrived ++ pieces rest := by
  induction arrived with
  | nil => rfl
  | cons piece arrived ih => simp [pieces, ih]

theorem failure?_data_append (arrived : List ByteArray) (rest : List Chunk) :
    failure? (arrived.map .data ++ rest) = failure? rest := by
  induction arrived with
  | nil => rfl
  | cons piece arrived ih => simpa [failure?] using ih

theorem eq_map_data_of_failure?_eq_none {chunks : List Chunk} (h : failure? chunks = none) :
    chunks = (pieces chunks).map .data := by
  induction chunks with
  | nil => rfl
  | cons chunk rest ih =>
    cases chunk with
    | failed reason => simp [failure?] at h
    | data bytes => rw [pieces, List.map_cons, ← ih h]

/-- Reading a stream joins its pieces, unless it fails. -/
theorem collect_eq (chunks : List Chunk) :
    collect chunks =
      match failure? chunks with
      | none => .ok (Bytes.join (pieces chunks))
      | some reason => .error reason := by
  induction chunks with
  | nil => rfl
  | cons chunk rest ih =>
    cases chunk with
    | failed reason => rfl
    | data bytes =>
      simp only [collect, failure?, pieces, ih]
      cases failure? rest <;> rfl

/-- A store reads a stream from its start. -/
theorem collect_streamed (chunks : List Chunk) :
    (Payload.streamed chunks).collect = collect chunks := by
  rw [Payload.collect, collectOnto_eq]
  cases collect chunks <;> simp [Except.map]

theorem collect_eq_ok_iff {chunks : List Chunk} {bytes : ByteArray} :
    collect chunks = .ok bytes ↔
      ∃ arrived, chunks = arrived.map .data ∧ bytes = Bytes.join arrived := by
  constructor
  · intro h
    rw [collect_eq] at h
    cases failure : failure? chunks with
    | some reason => simp [failure] at h
    | none =>
      simp only [failure, Except.ok.injEq] at h
      exact ⟨pieces chunks, eq_map_data_of_failure?_eq_none failure, h.symm⟩
  · rintro ⟨arrived, rfl, rfl⟩
    simp [collect_eq]

end Chunk

end MediaVault

import MediaVault.Proofs.Http.Multipart
import MediaVault.Proofs.Pieces

/-!
# Reading a form while it arrives

A body arrives in frames, and behind a limit only some of them.  A reader may hand over
a part long before it knows how that ends, so `Reader` leaves open when it does so and in
which pieces the content comes.  All that is asked of it is that a content which comes to
an end is that of a part received up to its delimiter.
-/

namespace MediaVault.Multipart

/-! ## Frames -/

/-- How the frames of a body come to an end. -/
inductive Ending where
  | complete
  /-- The next frame would have exceeded the limit. -/
  | cut
  /-- The body breaks off. -/
  | broken
deriving Repr, DecidableEq

/-- What a reader is given of a body. -/
structure Arrival where
  frames : List ByteArray
  ending : Ending

namespace Arrival

/-- What arrives of a body behind a limit.  A frame that exceeds what is left of the limit
is held back with all that follow it. -/
def limited (failure : Option String) : (limit : Nat) → List ByteArray → Arrival
  | _, [] => { frames := [], ending := if failure.isSome then .broken else .complete }
  | limit, frame :: frames =>
    if limit < frame.size then { frames := [], ending := .cut }
    else
      let rest := limited failure (limit - frame.size) frames
      { rest with frames := frame :: rest.frames }

variable {failure : Option String} {limit : Nat} {frames : List ByteArray}

/-- A beginning of the body arrives, and no more than the limit. -/
theorem limited_frames (failure : Option String) (limit : Nat) (frames : List ByteArray) :
    ∃ rest, Bytes.join frames = Bytes.join (limited failure limit frames).frames ++ rest ∧
      (Bytes.join (limited failure limit frames).frames).size ≤ limit := by
  induction frames generalizing limit with
  | nil => exact ⟨ByteArray.empty, by simp [limited], Nat.zero_le _⟩
  | cons frame frames ih =>
    rw [limited]
    split
    next long => exact ⟨Bytes.join (frame :: frames), by simp, Nat.zero_le _⟩
    next fits =>
      obtain ⟨rest, whole, small⟩ := ih (limit - frame.size)
      refine ⟨rest, ?_, ?_⟩
      · rw [Bytes.join_cons, whole, Bytes.join_cons, ByteArray.append_assoc]
      · rw [Bytes.join_cons, ByteArray.size_append]
        omega

/-- A body is cut exactly if it exceeds the limit, and otherwise all of it arrives. -/
theorem limited_eq (failure : Option String) (limit : Nat) (frames : List ByteArray) :
    if limit < (Bytes.join frames).size then (limited failure limit frames).ending = .cut
    else limited failure limit frames =
      { frames := frames, ending := if failure.isSome then .broken else .complete } := by
  induction frames generalizing limit with
  | nil => rfl
  | cons frame frames ih =>
    have others := ih (limit - frame.size)
    rw [limited, Bytes.join_cons, ByteArray.size_append]
    by_cases long : limit < frame.size
    · rw [if_pos long, if_pos (by omega)]
    · rw [if_neg long]
      by_cases exceeded : limit < frame.size + (Bytes.join frames).size
      · rw [if_pos exceeded]
        rwa [if_pos (by omega)] at others
      · rw [if_neg exceeded]
        rw [if_neg (by omega)] at others
        rw [others]

end Arrival

/-! ## Readers -/

/-- The first part that belongs to one of these fields is closed by its delimiter within the
first `limit` bytes of a form. -/
def ClosesWithin (limit : Nat) (boundary : String) (names : List String) (body : ByteArray) :
    Prop :=
  ∃ head bytes, (parts boundary (body.extract 0 limit)).Closes names head bytes

/-- A reader looks for a part of one of the fields.  The content that it hands over may
fail at any piece, and comes to its end only where the part was closed. -/
structure Reader where
  select : (boundary : String) → (names : List String) → Arrival →
    Except FormError (Option Selected)
  closes : ∀ {boundary names arrival selected bytes},
    select boundary names arrival = .ok (some selected) →
    Chunk.collect selected.content = .ok bytes →
    (parts boundary (Bytes.join arrival.frames)).Closes names selected.head bytes

/-- A selected part that can be read was closed. -/
theorem Parts.closes_of_select {names : List String} {parts : Parts} {selected : Selected}
    {bytes : ByteArray} (found : parts.select names = .ok (some selected))
    (read : Chunk.collect selected.content = .ok bytes) :
    parts.Closes names selected.head bytes := by
  induction parts with
  | finished => cases found
  | malformed error => cases found
  | broken head =>
    rw [select] at found
    split at found
    · obtain rfl := Option.some.inj (Except.ok.inj found)
      cases read
    · cases found
  | part head content rest ih =>
    rw [closes_part_iff]
    rw [select] at found
    split
    next named =>
      rw [if_pos named] at found
      obtain rfl := Option.some.inj (Except.ok.inj found)
      refine ⟨rfl, ?_⟩
      simpa [Chunk.collect_eq, Chunk.failure?, Chunk.pieces] using read
    next other => exact ih (by rwa [if_neg other] at found)

namespace Reader

/-- Select when the whole body is there. -/
def patient : Reader where
  select boundary names arrival :=
    match arrival.ending with
    | .complete => (parts boundary (Bytes.join arrival.frames)).select names
    | .cut => .error .tooLarge
    | .broken => .error .unreadable
  closes {boundary names arrival selected bytes} found read := by
    split at found
    · exact Parts.closes_of_select found read
    · cases found
    · cases found

/-- Select as soon as the part begins; where nothing more arrives, it breaks off. -/
def prompt : Reader where
  select boundary names arrival := (parts boundary (Bytes.join arrival.frames)).select names
  closes := Parts.closes_of_select

variable {failure : Option String} {limit : Nat} {frames : List ByteArray} {boundary : String}
  {names : List String}

theorem select_ofBody (failure : Option String) (limit : Nat) (frames : List ByteArray)
    (boundary : String) (names : List String) :
    (ofBody limit boundary { bytes := Bytes.join frames, failure := failure }).select names =
      patient.select boundary names (.limited failure limit frames) := by
  have arrived := Arrival.limited_eq failure limit frames
  rw [ofBody]
  split at arrived
  next exceeded =>
    rw [if_pos exceeded]
    simp only [patient, arrived]
    rfl
  next fits =>
    rw [if_neg fits, arrived]
    cases failure <;> rfl

variable {reader : Reader} {selected : Selected} {bytes : ByteArray}

/-- A content that comes to its end is no longer than the limit. -/
theorem size_le_of_select
    (found : reader.select boundary names (.limited failure limit frames) = .ok (some selected))
    (read : Chunk.collect selected.content = .ok bytes) : bytes.size ≤ limit := by
  obtain ⟨-, -, small⟩ := Arrival.limited_frames failure limit frames
  exact Nat.le_trans (size_le_of_parts (reader.closes found read)) small

/-- A content that comes to its end was closed within the limit. -/
theorem closesWithin_of_select
    (found : reader.select boundary names (.limited failure limit frames) = .ok (some selected))
    (read : Chunk.collect selected.content = .ok bytes) :
    ClosesWithin limit boundary names (Bytes.join frames) := by
  obtain ⟨rest, whole, small⟩ := Arrival.limited_frames failure limit frames
  have closed := reader.closes found read
  generalize Bytes.join (Arrival.limited failure limit frames).frames = received
    at whole small closed
  have begun : (Bytes.join frames).extract 0 limit =
      received ++ rest.extract 0 (limit - received.size) := by
    have all : received.extract 0 limit = received := by simpa [ByteArray.ext_iff] using .inr small
    rw [whole, ByteArray.extract_append, Nat.zero_sub, all]
  exact ⟨_, _, begun ▸ parts_append _ closed⟩

end Reader

end MediaVault.Multipart

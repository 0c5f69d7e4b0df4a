import MediaVault.Text.Utf8

/-!
# Looking for a pattern in bytes

Payloads are searched in place, without cutting them into lists.
-/

namespace MediaVault.Bytes

/-- `pattern` from its index `i` on stands in `bytes` at `offset + i`; `left`
bytes of it remain. -/
def matchesAt (bytes pattern : ByteArray) (offset : Nat) : (left : Nat) → Bool
  | 0 => true
  | left + 1 =>
    let i := pattern.size - (left + 1)
    if h : offset + i < bytes.size ∧ i < pattern.size then
      bytes[offset + i] == pattern[i] && matchesAt bytes pattern offset left
    else false

/-- The pattern stands at `offset`. -/
def isAt (bytes pattern : ByteArray) (offset : Nat) : Bool :=
  matchesAt bytes pattern offset pattern.size

/-- The first place among the last `left` ones at which the pattern stands. -/
def searchLast (bytes pattern : ByteArray) : (left : Nat) → Option Nat
  | 0 => none
  | left + 1 =>
    let offset := bytes.size - left
    if isAt bytes pattern offset then some offset else searchLast bytes pattern left

/-- The first place, from `start` on, at which the pattern stands. -/
def find? (bytes pattern : ByteArray) (start : Nat) : Option Nat :=
  if start ≤ bytes.size then searchLast bytes pattern (bytes.size - start + 1) else none

/-- The bytes from `start` up to `stop`. -/
def slice (bytes : ByteArray) (start stop : Nat) : ByteArray :=
  bytes.extract start stop

/-- The ASCII text as bytes. -/
def ofText (s : String) : ByteArray := s.toUTF8

/-- The bytes as a list. -/
def list (bytes : ByteArray) : List UInt8 := bytes.data.toList

/-- The text with this UTF-8 form, if there is one. -/
def text? (bytes : ByteArray) : Option String := String.fromUTF8? bytes

theorem le_of_searchLast {bytes pattern : ByteArray} {left place : Nat}
    (h : searchLast bytes pattern left = some place) : bytes.size < place + left := by
  induction left with
  | zero => simp [searchLast] at h
  | succ n ih =>
    simp only [searchLast] at h
    split at h
    · simp only [Option.some.injEq] at h
      omega
    · have := ih h
      omega

/-- A pattern is found at or after the start of the search. -/
theorem le_of_find? {bytes pattern : ByteArray} {start place : Nat}
    (h : find? bytes pattern start = some place) : start ≤ place := by
  simp only [find?] at h
  split at h
  next hs =>
    have := le_of_searchLast h
    omega
  next => simp at h

end MediaVault.Bytes

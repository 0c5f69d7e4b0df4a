/-!
# Punycode

A label with characters outside ASCII is sent as its ASCII characters, a
hyphen and a run of numbers that say where the others go.  Each number is
written with 36 digits whose place values adapt to the numbers before it.
-/

namespace MediaVault.Punycode

/-- The digit of value `d < 36`. -/
def digit (d : Nat) : Char :=
  if d < 26 then Char.ofNat ('a'.toNat + d) else Char.ofNat ('0'.toNat + (d - 26))

/-- The value of a digit in either case. -/
def digitValue? (c : Char) : Option Nat :=
  if 'a' ≤ c && c ≤ 'z' then some (c.toNat - 'a'.toNat)
  else if 'A' ≤ c && c ≤ 'Z' then some (c.toNat - 'A'.toNat)
  else if '0' ≤ c && c ≤ '9' then some (c.toNat - '0'.toNat + 26)
  else none

/-- From which digit on another one follows, at position `k`. -/
def threshold (k bias : Nat) : Nat :=
  if k ≤ bias + 1 then 1 else if bias + 26 ≤ k then 26 else k - bias

theorem threshold_pos (k bias : Nat) : 1 ≤ threshold k bias := by
  unfold threshold
  split
  · omega
  · split <;> omega

theorem threshold_le (k bias : Nat) : threshold k bias ≤ 26 := by
  unfold threshold
  split
  · omega
  · split <;> omega

/-- A number in digits of adapting place value, from position `k` on. -/
def number (bias : Nat) (k q : Nat) : List Char :=
  let t := threshold k bias
  if q < t then [digit q]
  else digit (t + (q - t) % (36 - t)) :: number bias (k + 36) ((q - t) / (36 - t))
termination_by q
decreasing_by
  have h1 := threshold_pos k bias
  have h2 := threshold_le k bias
  have : (q - threshold k bias) / (36 - threshold k bias) ≤ q - threshold k bias :=
    Nat.div_le_self _ _
  omega

/-- Bring a number into the range that the bias is made from. -/
def settle (k delta : Nat) : Nat :=
  if 455 < delta then settle (k + 36) (delta / 35) else k + 36 * delta / (delta + 38)
termination_by delta

/-- The bias after a number was written for the `count`th character. -/
def adapt (delta count : Nat) (first : Bool) : Nat :=
  let scaled := if first then delta / 700 else delta / 2
  settle 0 (scaled + scaled / count)

/-- Where writing a label stands. -/
structure State where
  /-- The next code point that was not written yet. -/
  code : Nat
  delta : Nat
  bias : Nat
  /-- How many characters were written. -/
  written : Nat
  output : List Char

/-- Pass one character of the label while code point `s.code` is written. -/
def visit (basic : Nat) (s : State) (c : Char) : State :=
  if c.toNat < s.code then { s with delta := s.delta + 1 }
  else if c.toNat = s.code then
    { s with
      output := s.output ++ number s.bias 36 s.delta
      bias := adapt s.delta (s.written + 1) (s.written == basic)
      delta := 0
      written := s.written + 1 }
  else s

/-- Write all places of one code point. -/
def writeCode (label : List Char) (basic : Nat) (s : State) (code : Nat) : State :=
  let s := { s with delta := s.delta + (code - s.code) * (s.written + 1), code := code }
  let s := label.foldl (visit basic) s
  { s with delta := s.delta + 1, code := code + 1 }

/-- The code points outside ASCII, in ascending order and each once. -/
def laterCodes (label : List Char) : List Nat :=
  ((label.map Char.toNat).filter (128 ≤ ·)).mergeSort.eraseDups

/-- A label in Punycode. -/
def encode (label : List Char) : List Char :=
  let ascii := label.filter fun c => c.toNat < 128
  let lead := if ascii.isEmpty then [] else ascii ++ ['-']
  ((laterCodes label).foldl (writeCode label ascii.length)
    ⟨128, 0, 72, ascii.length, lead⟩).output

/-- Read a number of adapting place value from position `k` on. -/
def readNumber (bias : Nat) : (k weight acc : Nat) → List Char → Option (Nat × List Char)
  | _, _, _, [] => none
  | k, weight, acc, c :: rest =>
    match digitValue? c with
    | none => none
    | some d =>
      let acc := acc + d * weight
      let t := threshold k bias
      if d < t then some (acc, rest) else readNumber bias (k + 36) (weight * (36 - t)) acc rest

theorem length_readNumber {bias k weight acc : Nat} {s rest : List Char} {n : Nat}
    (h : readNumber bias k weight acc s = some (n, rest)) : rest.length < s.length := by
  induction s generalizing k weight acc with
  | nil => simp [readNumber] at h
  | cons c s ih =>
    simp only [readNumber] at h
    split at h
    · simp at h
    · split at h
      · simp only [Option.some.injEq, Prod.mk.injEq] at h
        obtain ⟨-, rfl⟩ := h
        simp
      · have := ih h
        simp only [List.length_cons]
        omega

/-- Put the characters that the numbers describe into their places. -/
def insertAll (code index bias : Nat) (first : Bool) (label : List Char) (s : List Char) :
    Option (List Char) :=
  match s with
  | [] => some label
  | c :: s =>
    match found : readNumber bias 36 1 0 (c :: s) with
    | none => none
    | some (delta, rest) =>
      have : rest.length < s.length + 1 := length_readNumber found
      let count := label.length + 1
      let place := index + delta
      let code := code + place / count
      if 0x10FFFF < code then none
      else
        insertAll code (place % count + 1) (adapt delta count first) false
          (label.take (place % count) ++ Char.ofNat code :: label.drop (place % count)) rest
termination_by s.length

/-- Read a label in Punycode. -/
def decode (s : List Char) : Option (List Char) :=
  let tail := (s.reverse.takeWhile (· != '-')).reverse
  let ascii := (s.take (s.length - tail.length)).dropLast
  if s.all fun c => c.toNat < 128 then insertAll 128 0 72 true ascii tail else none

end MediaVault.Punycode

import MediaVault.Text.Hex
import MediaVault.Text.Numeral

/-!
# Numeric addresses

IPv4 addresses may be written with one to four numbers, each decimal, octal or
hexadecimal.  IPv6 addresses are written in their shortest form, in which the
longest run of zeros is left out.
-/

namespace MediaVault.Address

/-! ## IPv4 -/

/-- The value of a text of digits in a base, when it has no other character. -/
def inBase? (base : Nat) (s : List Char) : Option Nat :=
  s.foldl (fun acc c => do
    let n ← acc
    let d ← Text.hexValue? c
    if d < base then pure (n * base + d) else none) (some 0)

/-- One number of an IPv4 address: the prefix chooses the base. -/
def number? : List Char → Option Nat
  | [] => none
  | '0' :: 'x' :: s | '0' :: 'X' :: s => inBase? 16 s
  | '0' :: c :: s => inBase? 8 (c :: s)
  | s => inBase? 10 s

/-- The pieces between dots; one dot at the end is ignored. -/
def pieces (s : List Char) : List (List Char) :=
  let all := s.splitOn '.'
  if all.getLast? = some [] ∧ 1 < all.length then all.dropLast else all

/-- The host looks like an address, so it has to be one. -/
def endsInNumber (s : List Char) : Bool :=
  match (pieces s).getLast? with
  | none => false
  | some last => (!last.isEmpty && last.all Char.isDigit) || (number? last).isSome

/-- The value of an IPv4 address.  The last number fills all bytes that the
others leave. -/
def ipv4? (s : List Char) : Option Nat := do
  let numbers ← (pieces s).mapM number?
  if 4 < numbers.length then none
  else
    let last ← numbers.getLast?
    let lead := numbers.dropLast
    if lead.any (255 < ·) || 1 <<< (8 * (4 - lead.length)) ≤ last then none
    else pure (lead.zipIdx.foldl (fun acc p => acc + (p.1 <<< (8 * (3 - p.2)))) last)

/-- Four decimal numbers. -/
def ipv4Text (n : Nat) : String :=
  ".".intercalate ([3, 2, 1, 0].map fun i => toString (n >>> (8 * i) % 256))

/-! ## IPv6 -/

/-- One to four hexadecimal digits. -/
def group? (s : List Char) : Option Nat :=
  if s.isEmpty || 4 < s.length then none else inBase? 16 s

/-- A decimal number of one byte without leading zeros. -/
def byte? (s : List Char) : Option Nat :=
  if s.isEmpty || 3 < s.length || (1 < s.length && s.head? == some '0') then none
  else (inBase? 10 s).filter (· ≤ 255)

/-- Four bytes between dots as two groups. -/
def dotted? (s : List Char) : Option (List Nat) := do
  match ← (s.splitOn '.').mapM byte? with
  | [a, b, c, d] => pure [a * 256 + b, c * 256 + d]
  | _ => none

/-- The groups of a text without a gap; the last may be dotted bytes. -/
def groups? (s : List Char) : Option (List Nat) :=
  if s.isEmpty then some []
  else
    let parts := s.splitOn ':'
    let last := parts.getLast?.getD []
    if last.contains '.' then do
      let lead ← parts.dropLast.mapM group?
      pure (lead ++ (← dotted? last))
    else parts.mapM group?

/-- Cut a text at the first pair of colons. -/
def cutAtGap : List Char → Option (List Char × List Char)
  | ':' :: ':' :: rest => some ([], rest)
  | c :: rest => (cutAtGap rest).map fun halves => (c :: halves.1, halves.2)
  | [] => none

/-- The eight groups of an IPv6 address.  A pair of colons stands for one or
more groups of zeros. -/
def ipv6? (s : List Char) : Option (List Nat) :=
  match cutAtGap s with
  | none => (groups? s).filter fun g => g.length == 8
  | some (head, tail) => do
    if head.contains '.' then none
    else
      let before ← groups? head
      let after ← groups? tail
      let count := before.length + after.length
      if 7 < count then none else pure (before ++ List.replicate (8 - count) 0 ++ after)

/-- Length of the run of zeros at the start. -/
def zeros (groups : List Nat) : Nat :=
  (groups.takeWhile (· == 0)).length

/-- The first longest run of at least two zeros: its place and length. -/
def longestGap (groups : List Nat) : Option (Nat × Nat) :=
  let runs := (List.range groups.length).map fun i => (i, zeros (groups.drop i))
  let best := runs.foldl (fun b r => if b.2 < r.2 then r else b) (0, 0)
  if 2 ≤ best.2 then some best else none

/-- Groups in hexadecimal, joined by colons. -/
def groupText (groups : List Nat) : String :=
  ":".intercalate (groups.map fun g => String.ofList (Nat.toDigits 16 g))

/-- The shortest form, in brackets. -/
def ipv6Text (groups : List Nat) : String :=
  match longestGap groups with
  | none => "[" ++ groupText groups ++ "]"
  | some (place, length) =>
    "[" ++ groupText (groups.take place) ++ "::" ++ groupText (groups.drop (place + length)) ++ "]"

end MediaVault.Address

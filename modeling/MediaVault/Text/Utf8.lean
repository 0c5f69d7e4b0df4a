/-!
# Reading bytes as UTF-8

The strict reader of the standard library refuses a text with one bad byte.
The lenient reader here replaces each maximal bad piece by the replacement
character and goes on, which is what query strings need.
-/

namespace MediaVault.Text

/-- The character put in place of bytes that are no UTF-8. -/
def replacementChar : Char := '\uFFFD'

/-- A continuation byte. -/
def isContinuation (b : UInt8) : Bool :=
  0x80 ≤ b && b ≤ 0xBF

/-- How many bytes follow a lead byte, with the range allowed for the first of
them.  The narrowed ranges exclude overlong forms, surrogates and numbers past
the last code point. -/
def followers? (lead : UInt8) : Option (Nat × UInt8 × UInt8) :=
  if 0xC2 ≤ lead && lead ≤ 0xDF then some (1, 0x80, 0xBF)
  else if lead == 0xE0 then some (2, 0xA0, 0xBF)
  else if lead == 0xED then some (2, 0x80, 0x9F)
  else if 0xE1 ≤ lead && lead ≤ 0xEF then some (2, 0x80, 0xBF)
  else if lead == 0xF0 then some (3, 0x90, 0xBF)
  else if 0xF1 ≤ lead && lead ≤ 0xF3 then some (3, 0x80, 0xBF)
  else if lead == 0xF4 then some (3, 0x80, 0x8F)
  else none

/-- The bits that a lead byte contributes. -/
def leadBits (count : Nat) (lead : UInt8) : Nat :=
  lead.toNat % (1 <<< (6 - count))

/-- Collect up to `count` continuation bytes, the first of them between `low`
and `high`.  The flag tells whether all of them were there. -/
def takeFollowers : Nat → UInt8 → UInt8 → Nat → List UInt8 → Bool × Nat × List UInt8
  | 0, _, _, acc, rest => (true, acc, rest)
  | _ + 1, _, _, acc, [] => (false, acc, [])
  | count + 1, low, high, acc, b :: rest =>
    if low ≤ b && b ≤ high then
      takeFollowers count 0x80 0xBF (acc * 64 + b.toNat % 64) rest
    else (false, acc, b :: rest)

theorem length_takeFollowers_le (count : Nat) (low high : UInt8) (acc : Nat) (rest : List UInt8) :
    (takeFollowers count low high acc rest).2.2.length ≤ rest.length := by
  fun_induction takeFollowers count low high acc rest with
  | case1 => simp
  | case2 => simp
  | case3 count low high acc b rest h ih => simp only [List.length_cons]; omega
  | case4 => simp

/-- Read bytes as UTF-8; every maximal bad piece becomes one replacement
character. -/
def decodeLossy : List UInt8 → List Char
  | [] => []
  | b :: rest =>
    if b < 0x80 then Char.ofNat b.toNat :: decodeLossy rest
    else
      match followers? b with
      | none => replacementChar :: decodeLossy rest
      | some (count, low, high) =>
        let taken := takeFollowers count low high (leadBits count b) rest
        (if taken.1 then Char.ofNat taken.2.1 else replacementChar) :: decodeLossy taken.2.2
termination_by bytes => bytes.length
decreasing_by
  · simp
  · simp
  · have := length_takeFollowers_le count low high (leadBits count b) rest
    simp only [List.length_cons]
    omega

/-- The bytes of a text. -/
def utf8 (s : String) : List UInt8 :=
  s.toUTF8.data.toList

/-- The text whose UTF-8 form is `bytes`, when there is one. -/
def ofUtf8? (bytes : List UInt8) : Option String :=
  String.fromUTF8? bytes.toByteArray

end MediaVault.Text

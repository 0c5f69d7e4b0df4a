import MediaVault.Text.Letters
import MediaVault.Url.Punycode

/-!
# Domain names

A domain is mapped to lower case and to ASCII, label by label.  Some characters
are dropped, some stand for others, some may not occur at all.
-/

namespace MediaVault.Domain

/-- ASCII characters that no domain may contain. -/
def isForbidden (c : Char) : Bool :=
  c.toNat ≤ 0x20 || c.toNat == 0x7F || "%#/:<>?@[\\]^|".toList.contains c

/-- Characters without effect. -/
def isIgnored (n : Nat) : Bool :=
  n == 0xAD || n == 0x34F || n == 0x200B || n == 0x2060 || n == 0x2064 || n == 0xFEFF ||
    (0x180B ≤ n && n ≤ 0x180D) || (0xFE00 ≤ n && n ≤ 0xFE0F)

/-- Characters outside ASCII that no domain may contain. -/
def isDisallowed (n : Nat) : Bool :=
  (0x80 ≤ n && n ≤ 0xA0) || n == 0x1680 || (0x2000 ≤ n && n ≤ 0x200A) || n == 0x200C ||
    n == 0x200D || n == 0x200E || n == 0x200F || (0x2028 ≤ n && n ≤ 0x202F) || n == 0x205F ||
    (0x2061 ≤ n && n ≤ 0x2063) || (0x2065 ≤ n && n ≤ 0x206F) || n == 0x3000 ||
    (0xE000 ≤ n && n ≤ 0xF8FF) || (0xFFF9 ≤ n && n ≤ 0xFFFF) || 0xE0000 ≤ n

/-- Full stops of other scripts. -/
def isFullStop (n : Nat) : Bool :=
  n == 0x3002 || n == 0xFF0E || n == 0xFF61

/-- Capital letters whose small form is the next code point, by runs of pairs:
first and last capital. -/
def pairedCapitals : List (Nat × Nat) :=
  [(0x100, 0x12E), (0x132, 0x136), (0x139, 0x147), (0x14A, 0x176), (0x179, 0x17D),
    (0x370, 0x372), (0x3D8, 0x3EE), (0x460, 0x480), (0x48A, 0x4BE), (0x4C1, 0x4CD),
    (0x4D0, 0x52E), (0x1E00, 0x1E94), (0x1EA0, 0x1EFE)]

/-- Capital letters whose small form lies at a fixed distance: first, last,
distance. -/
def shiftedCapitals : List (Nat × Nat × Nat) :=
  [(0xC0, 0xD6, 32), (0xD8, 0xDE, 32), (0x388, 0x38A, 37), (0x391, 0x3A1, 32),
    (0x3A3, 0x3AB, 32), (0x400, 0x40F, 80), (0x410, 0x42F, 32), (0x531, 0x556, 48),
    (0xFF21, 0xFF3A, 32), (0x10400, 0x10427, 40)]

/-- Characters with a mapping of their own. -/
def singleMappings : List (Nat × List Nat) :=
  [(0xAA, [0x61]), (0xB2, [0x32]), (0xB3, [0x33]), (0xB5, [0x3BC]), (0xB9, [0x31]),
    (0xBA, [0x6F]), (0x130, [0x69, 0x307]), (0x178, [0xFF]), (0x17F, [0x73]), (0x386, [0x3AC]),
    (0x38C, [0x3CC]), (0x38E, [0x3CD]), (0x38F, [0x3CE]), (0x4C0, [0x4CF]),
    (0x1E9E, [0x73, 0x73]), (0x2122, [0x74, 0x6D]), (0x212A, [0x6B]), (0x212B, [0xE5]),
    (0xFB00, [0x66, 0x66]), (0xFB01, [0x66, 0x69]), (0xFB02, [0x66, 0x6C])]

/-- The small form of a code point. -/
def smallForm (n : Nat) : List Nat :=
  match singleMappings.find? (·.1 == n) with
  | some m => m.2
  | none =>
    match shiftedCapitals.find? fun r => r.1 ≤ n && n ≤ r.2.1 with
    | some r => [n + r.2.2]
    | none =>
      match pairedCapitals.find? fun r => r.1 ≤ n && n ≤ r.2 && (n - r.1) % 2 == 0 with
      | some _ => [n + 1]
      | none => [n]

/-- The ASCII character of a full-width form. -/
def narrow (n : Nat) : Nat :=
  if 0xFF01 ≤ n && n ≤ 0xFF5E then n - 0xFEE0 else n

/-- What an ASCII character stands for. -/
def mapAscii? (c : Char) : Option (List Char) :=
  if isForbidden c then none else some [c.toLower]

/-- What a character stands for, unless it may not occur. -/
def mapChar? (c : Char) : Option (List Char) :=
  let n := c.toNat
  if n < 0x80 then mapAscii? c
  else if isFullStop n then some ['.']
  else if narrow n != n then mapAscii? (Char.ofNat (narrow n))
  else if isIgnored n then some []
  else if isDisallowed n then none
  else some ((smallForm n).map Char.ofNat)

/-- The ASCII form of a label.  A label that is in that form already has to be
readable. -/
def labelToAscii? (label : List Char) : Option (List Char) :=
  match Text.dropLead? "xn--".toList label with
  | some code =>
    match Punycode.decode code with
    | some plain =>
      if plain.any (fun c => 128 ≤ c.toNat) && Punycode.encode plain == code then some label
      else none
    | none => none
  | none =>
    if label.all fun c => c.toNat < 128 then some label
    else some ("xn--".toList ++ Punycode.encode label)

/-- The ASCII form of a domain. -/
def toAscii? (domain : List Char) : Option (List Char) := do
  let mapped ← domain.mapM mapChar?
  let labels ← (mapped.flatten.splitOn '.').mapM labelToAscii?
  pure (['.'].intercalate labels)

end MediaVault.Domain

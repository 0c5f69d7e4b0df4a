/-!
# Letter case in the ASCII range

Content types, metadata names and header names compare without regard to the
case of ASCII letters.  Letters outside ASCII are left alone.
-/

namespace MediaVault.Text

/-- ASCII letters lowered, everything else kept. -/
def lowerChars (s : List Char) : List Char :=
  s.map Char.toLower

/-- ASCII letters lowered, everything else kept. -/
def lower (s : String) : String :=
  String.ofList (lowerChars s.toList)

/-- Equality up to the case of ASCII letters. -/
def sameIgnoringCase (a b : String) : Bool :=
  lowerChars a.toList == lowerChars b.toList

/-- An ASCII letter or digit. -/
def isAsciiAlphanumeric (c : Char) : Bool :=
  c.isAlphanum

/-- A control character of the ASCII range. -/
def isAsciiControl (c : Char) : Bool :=
  c.toNat < 0x20 || c.toNat == 0x7F

/-- What follows `lead` in `s`, when `s` starts with it. -/
def dropLead? : List Char → List Char → Option (List Char)
  | [], s => some s
  | _ :: _, [] => none
  | a :: lead, b :: s => if a = b then dropLead? lead s else none

/-- What follows `lead` in `s`, when `s` starts with it. -/
def stripLead? (lead s : String) : Option String :=
  (dropLead? lead.toList s.toList).map String.ofList

/-- `s` starts with `lead`. -/
def startsWith (lead s : String) : Bool :=
  lead.toList.isPrefixOf s.toList

/-- Cut `s` at the first `sep`; the separator belongs to neither half. -/
def cutAt (sep : Char) : List Char → Option (List Char × List Char)
  | [] => none
  | c :: s =>
    if c = sep then some ([], s)
    else (cutAt sep s).map fun halves => (c :: halves.1, halves.2)

/-- The longest end of `s` in which no character satisfies `isSep`. -/
def lastPiece (isSep : Char → Bool) (s : List Char) : List Char :=
  (s.reverse.takeWhile (fun c => !isSep c)).reverse

end MediaVault.Text

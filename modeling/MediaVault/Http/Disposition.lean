import MediaVault.Text.Utf8

/-!
# Content dispositions

A part of a form names its field and its file in the attributes of its
`Content-Disposition` header.
-/

namespace MediaVault.Disposition

/-- An ASCII blank. -/
def isSpace (b : UInt8) : Bool :=
  b == 0x20 || b == 0x09 || b == 0x0A || b == 0x0C || b == 0x0D

/-- What stands before an attribute's name. -/
def isBoundary (b : UInt8) : Bool :=
  isSpace b || b == 0x3B

/-- The bytes up to the closing quote; one after a backslash does not close. -/
def untilQuote (previous : UInt8) : List UInt8 → Option (List UInt8)
  | [] => none
  | b :: rest =>
    if b == 0x22 && previous != 0x5C then some []
    else (untilQuote b rest).map (b :: ·)

/-- Drop the backslashes that stand before quotes. -/
def unescape : List UInt8 → List UInt8
  | 0x5C :: 0x22 :: rest => 0x22 :: unescape rest
  | b :: rest => b :: unescape rest
  | [] => []

/-- The value after the name: an equals sign, then a quoted text or everything
up to a semicolon. -/
def value? (rest : List UInt8) : Option (List UInt8) :=
  match rest.dropWhile isSpace with
  | 0x3D :: rest =>
    match rest.dropWhile isSpace with
    | 0x22 :: quoted => (untilQuote 0 quoted).map unescape
    | bare => some (bare.takeWhile (· != 0x3B))
  | _ => none

/-- What follows `name` in `s`, when `s` starts with it. -/
def dropName? : List UInt8 → List UInt8 → Option (List UInt8)
  | [], s => some s
  | _ :: _, [] => none
  | a :: name, b :: s => if a = b then dropName? name s else none

/-- The value of the first attribute with this name.  `previous` is the byte
before the header, and `skip` more bytes belong to a name that was found inside
a longer one; what follows such a name counts as a fresh start. -/
def find? (name : List UInt8) : (previous : UInt8) → (skip : Nat) → List UInt8 →
    Option (List UInt8)
  | _, _, [] => none
  | _, skip + 1, _ :: rest => find? name 0x20 skip rest
  | previous, 0, b :: rest =>
    match dropName? name (b :: rest) with
    | some after =>
      if isBoundary previous then value? after else find? name 0x20 (name.length - 1) rest
    | none => find? name b 0 rest

/-- The value of an attribute as text. -/
def attribute? (name : String) (header : List UInt8) : Option String :=
  (find? (Text.utf8 name) 0x20 0 header).bind Text.ofUtf8?

end MediaVault.Disposition

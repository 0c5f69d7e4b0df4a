import MediaVault.Text.Hex
import MediaVault.Text.Utf8

/-!
# Reading the outline of a JSON document

A document is read down to its second level.  What lies deeper is checked for
its form alone: it may be nested to any depth, and its texts need not be
Unicode.  Bytes are read as the characters with their codes, and every reading
function gives back what it read together with the rest of the text.
-/

namespace MediaVault.Json

/-- A value inside a list or an object, as far as it is kept. -/
inductive Leaf where
  | null
  | bool (value : Bool)
  | text (value : String)
  /-- A number, a list, an object or a text that is not Unicode. -/
  | other
deriving Repr, DecidableEq

/-- The first two levels of a document. -/
inductive Outline where
  | leaf (value : Leaf)
  | list (items : List Leaf)
  | object (members : List (String × Leaf))
deriving Repr, DecidableEq

/-- The text without leading blanks. -/
def skipBlanks (s : List Char) : List Char :=
  s.dropWhile fun c => c == ' ' || c == '\n' || c == '\r' || c == '\t'

/-! ## Strings -/

/-- A piece of a string: a byte, or a code unit written in hexadecimal. -/
inductive Piece where
  | byte (value : UInt8)
  | unit (value : Nat)

/-- Four hexadecimal digits. -/
def readUnit : List Char → Option (Nat × List Char)
  | a :: b :: c :: d :: rest => do
    let a ← Text.hexValue? a
    let b ← Text.hexValue? b
    let c ← Text.hexValue? c
    let d ← Text.hexValue? d
    pure (((a * 16 + b) * 16 + c) * 16 + d, rest)
  | _ => none

/-- What stands after a backslash. -/
def readEscape : List Char → Option (Piece × List Char)
  | '"' :: rest => some (.byte 0x22, rest)
  | '\\' :: rest => some (.byte 0x5C, rest)
  | '/' :: rest => some (.byte 0x2F, rest)
  | 'b' :: rest => some (.byte 0x08, rest)
  | 'f' :: rest => some (.byte 0x0C, rest)
  | 'n' :: rest => some (.byte 0x0A, rest)
  | 'r' :: rest => some (.byte 0x0D, rest)
  | 't' :: rest => some (.byte 0x09, rest)
  | 'u' :: rest => (readUnit rest).map fun r => (.unit r.1, r.2)
  | _ => none

/-- The rest of a string after its opening quote; each piece takes one unit of
`fuel`. -/
def readString : (fuel : Nat) → List Char → Option (List Piece × List Char)
  | 0, _ => none
  | _ + 1, [] => none
  | _ + 1, '"' :: rest => some ([], rest)
  | fuel + 1, '\\' :: rest => do
    let (piece, rest) ← readEscape rest
    let (pieces, rest) ← readString fuel rest
    pure (piece :: pieces, rest)
  | fuel + 1, c :: rest =>
    if c.toNat < 0x20 then none
    else do
      let (pieces, rest) ← readString fuel rest
      pure (.byte c.toNat.toUInt8 :: pieces, rest)

/-- The bytes of the character with a code. -/
def codeBytes (code : Nat) : List UInt8 :=
  Text.utf8 (String.singleton (Char.ofNat code))

/-- The bytes of a string.  A pair of surrogates makes one character; a
surrogate that stands alone is refused. -/
def pieceBytes? : List Piece → Option (List UInt8)
  | [] => some []
  | .byte b :: rest => (pieceBytes? rest).map (b :: ·)
  | .unit first :: rest =>
    if 0xD800 ≤ first && first ≤ 0xDBFF then
      match rest with
      | .unit second :: rest =>
        if 0xDC00 ≤ second && second ≤ 0xDFFF then
          (pieceBytes? rest).map
            (codeBytes (0x10000 + (first - 0xD800) * 0x400 + (second - 0xDC00)) ++ ·)
        else none
      | _ => none
    else if 0xDC00 ≤ first && first ≤ 0xDFFF then none
    else (pieceBytes? rest).map (codeBytes first ++ ·)

/-- The text of a string, when it is Unicode. -/
def pieceText? (pieces : List Piece) : Option String :=
  (pieceBytes? pieces).bind Text.ofUtf8?

/-! ## Numbers and words -/

/-- Past one or more digits. -/
def skipDigits (s : List Char) : Option (List Char) :=
  if s.head?.any Char.isDigit then some (s.dropWhile Char.isDigit) else none

/-- Past the digits before the point: no zero precedes others. -/
def skipWhole : List Char → Option (List Char)
  | '0' :: rest => if rest.head?.any Char.isDigit then none else some rest
  | s => skipDigits s

/-- Past a point and digits, if there is a point. -/
def skipFraction : List Char → Option (List Char)
  | '.' :: rest => skipDigits rest
  | s => some s

/-- Past a power of ten, if there is one. -/
def skipExponent : List Char → Option (List Char)
  | e :: rest =>
    if e == 'e' || e == 'E' then
      match rest with
      | '+' :: rest => skipDigits rest
      | '-' :: rest => skipDigits rest
      | rest => skipDigits rest
    else some (e :: rest)
  | [] => some []

/-- Past a number. -/
def skipNumber (s : List Char) : Option (List Char) := do
  let s := match s with
    | '-' :: rest => rest
    | s => s
  skipExponent (← skipFraction (← skipWhole s))

/-- Past a fixed word. -/
def skipWord (word : String) (s : List Char) : Option (List Char) :=
  if word.toList.isPrefixOf s then some (s.drop word.length) else none

/-! ## Lists and objects -/

section

variable {α : Type}

/-- Values with commas between them and a closing bracket; each value takes one
unit of `fuel`. -/
def readSequence (close : Char) (read : List Char → Option (α × List Char)) :
    (fuel : Nat) → List Char → Option (List α × List Char)
  | 0, _ => none
  | fuel + 1, s => do
    let (first, s) ← read s
    match skipBlanks s with
    | ',' :: rest => do
      let (others, rest) ← readSequence close read fuel rest
      pure (first :: others, rest)
    | c :: rest => if c = close then pure ([first], rest) else none
    | [] => none

/-- What stands after an opening bracket; there may be nothing inside. -/
def readBracketed (close : Char) (read : List Char → Option (α × List Char)) (s : List Char) :
    Option (List α × List Char) :=
  match skipBlanks s with
  | c :: rest => if c = close then some ([], rest) else readSequence close read s.length s
  | [] => none

/-- A name, a colon and a value.  A name that is not Unicode has no text. -/
def readMember (read : List Char → Option (α × List Char)) (s : List Char) :
    Option ((Option String × α) × List Char) :=
  match skipBlanks s with
  | '"' :: rest => do
    let (name, rest) ← readString (rest.length + 1) rest
    match skipBlanks rest with
    | ':' :: rest => do
      let (value, rest) ← read rest
      pure ((pieceText? name, value), rest)
    | _ => none
  | _ => none

end

/-- A value; every level of it takes one unit of `fuel`. -/
def readLeaf : (fuel : Nat) → List Char → Option (Leaf × List Char)
  | 0, _ => none
  | fuel + 1, s =>
    match skipBlanks s with
    | '"' :: rest => (readString (rest.length + 1) rest).map fun r =>
      ((pieceText? r.1).elim .other .text, r.2)
    | '[' :: rest => (readBracketed ']' (readLeaf fuel) rest).map fun r => (.other, r.2)
    | '{' :: rest =>
      (readBracketed '}' (readMember (readLeaf fuel)) rest).map fun r => (.other, r.2)
    | 'n' :: rest => (skipWord "null" ('n' :: rest)).map fun rest => (.null, rest)
    | 't' :: rest => (skipWord "true" ('t' :: rest)).map fun rest => (.bool true, rest)
    | 'f' :: rest => (skipWord "false" ('f' :: rest)).map fun rest => (.bool false, rest)
    | s => (skipNumber s).map fun rest => (.other, rest)

/-- The outline of the value that a text begins with.  The names of its members
have to be Unicode. -/
def readOutline (s : List Char) : Option (Outline × List Char) :=
  match skipBlanks s with
  | '[' :: rest =>
    (readBracketed ']' (readLeaf rest.length) rest).map fun r => (.list r.1, r.2)
  | '{' :: rest => do
    let (members, rest) ← readBracketed '}' (readMember (readLeaf rest.length)) rest
    let members ← members.mapM fun member => member.1.map fun name => (name, member.2)
    pure (.object members, rest)
  | s => (readLeaf 1 s).map fun r => (.leaf r.1, r.2)

/-- The outline of the value that bytes consist of. -/
def ofBytes? (bytes : ByteArray) : Option Outline :=
  match readOutline (bytes.data.toList.map fun b => Char.ofNat b.toNat) with
  | some (outline, rest) => if (skipBlanks rest).isEmpty then some outline else none
  | none => none

end MediaVault.Json

import MediaVault.Json.Parser
import MediaVault.Proofs.Text

/-!
# What JSON documents look like

Documents are told by how they are put together: no part of the grammar says how to take a text
apart.  The reading functions accept these documents, with these outlines, and no others:
`ofBytes?_eq_some_iff`.
-/

namespace MediaVault.Json

variable {α : Type}

/-! ## Strings -/

/-- The blanks that may stand between the parts of a document. -/
def IsBlank (c : Char) : Prop := c = ' ' ∨ c = '\n' ∨ c = '\r' ∨ c = '\t'

instance (c : Char) : Decidable (IsBlank c) :=
  inferInstanceAs (Decidable (c = ' ' ∨ c = '\n' ∨ c = '\r' ∨ c = '\t'))

def Blanks (s : List Char) : Prop := ∀ c ∈ s, IsBlank c

/-- The characters that denote a byte when a backslash stands before them. -/
def escapes : List (Char × UInt8) :=
  [('"', 0x22), ('\\', 0x5C), ('/', 0x2F), ('b', 0x08), ('f', 0x0C), ('n', 0x0A), ('r', 0x0D),
    ('t', 0x09)]

/-- What stands after a backslash, with the piece of the string that it denotes. -/
inductive EscapeText : List Char → Piece → Prop where
  | byte : (c, b) ∈ escapes → EscapeText [c] (.byte b)
  | unit : Text.hexValue? a = some i → Text.hexValue? b = some j → Text.hexValue? c = some k →
      Text.hexValue? d = some l →
      EscapeText ['u', a, b, c, d] (.unit (((i * 16 + j) * 16 + k) * 16 + l))

/-- The inside of a string. -/
inductive StringText : List Char → List Piece → Prop where
  | nil : StringText [] []
  | plain : c ≠ '"' → c ≠ '\\' → 0x20 ≤ c.toNat → StringText s pieces →
      StringText (c :: s) (.byte c.toNat.toUInt8 :: pieces)
  | escaped : EscapeText e piece → StringText s pieces →
      StringText ('\\' :: (e ++ s)) (piece :: pieces)

def IsHighSurrogate (unit : Nat) : Prop := 0xD800 ≤ unit ∧ unit ≤ 0xDBFF

def IsLowSurrogate (unit : Nat) : Prop := 0xDC00 ≤ unit ∧ unit ≤ 0xDFFF

/-- The bytes of a string.  Surrogates come in pairs only, and each pair is one character. -/
inductive Encodes : List Piece → List UInt8 → Prop where
  | nil : Encodes [] []
  | byte : Encodes pieces bytes → Encodes (.byte b :: pieces) (b :: bytes)
  | unit : ¬ IsHighSurrogate n → ¬ IsLowSurrogate n → Encodes pieces bytes →
      Encodes (.unit n :: pieces) (codeBytes n ++ bytes)
  | pair : IsHighSurrogate high → IsLowSurrogate low → Encodes pieces bytes →
      Encodes (.unit high :: .unit low :: pieces)
        (codeBytes (0x10000 + (high - 0xD800) * 0x400 + (low - 0xDC00)) ++ bytes)

/-- A string with its quotes, and its text if its bytes are those of a text. -/
inductive QuotedText : List Char → Option String → Prop where
  | text : StringText s pieces → Encodes pieces (Text.utf8 value) →
      QuotedText ('"' :: (s ++ ['"'])) (some value)
  | other : StringText s pieces → (∀ value, ¬ Encodes pieces (Text.utf8 value)) →
      QuotedText ('"' :: (s ++ ['"'])) none

/-! ## Numbers -/

def Digits (s : List Char) : Prop := s ≠ [] ∧ ∀ c ∈ s, c.isDigit = true

/-- The digits before the point: no zero precedes others. -/
inductive WholeText : List Char → Prop where
  | zero : WholeText ['0']
  | digits : Digits (c :: s) → c ≠ '0' → WholeText (c :: s)

inductive FractionText : List Char → Prop where
  | none : FractionText []
  | digits : Digits s → FractionText ('.' :: s)

inductive ExponentText : List Char → Prop where
  | none : ExponentText []
  | digits : e = 'e' ∨ e = 'E' → sign = [] ∨ sign = ['+'] ∨ sign = ['-'] → Digits s →
      ExponentText (e :: (sign ++ s))

inductive NumberText : List Char → Prop where
  | parts : sign = [] ∨ sign = ['-'] → WholeText whole → FractionText fraction →
      ExponentText exponent → NumberText (sign ++ whole ++ fraction ++ exponent)

/-! ## Values -/

/-- One or more values with commas between them and blanks around them. -/
inductive SequenceText (P : List Char → α → Prop) : List Char → List α → Prop where
  | last : Blanks before → P s a → Blanks after → SequenceText P (before ++ s ++ after) [a]
  | more : Blanks before → P s a → Blanks after → SequenceText P t others →
      SequenceText P (before ++ s ++ after ++ ',' :: t) (a :: others)

/-- Any number of values between two brackets. -/
inductive BracketText (first last : Char) (P : List Char → α → Prop) : List Char → List α → Prop
    where
  | nothing : Blanks s → BracketText first last P (first :: (s ++ [last])) []
  | values : SequenceText P s all → BracketText first last P (first :: (s ++ [last])) all

/-- A name, a colon and a value. -/
inductive MemberText (P : List Char → α → Prop) : List Char → Option String × α → Prop where
  | named : QuotedText name spelled → Blanks before → Blanks after → P s a →
      MemberText P (name ++ before ++ ':' :: (after ++ s)) (spelled, a)

/-- A value with no others in it. -/
inductive ScalarText : List Char → Leaf → Prop where
  | null : ScalarText "null".toList .null
  | yes : ScalarText "true".toList (.bool true)
  | no : ScalarText "false".toList (.bool false)
  | text : QuotedText s (some value) → ScalarText s (.text value)
  | garbled : QuotedText s none → ScalarText s .other
  | number : NumberText s → ScalarText s .other

/-- A value inside a list or an object, nested to any depth. -/
inductive LeafText : List Char → Leaf → Prop where
  | scalar : ScalarText s leaf → LeafText s leaf
  | list : BracketText '[' ']' LeafText s items → LeafText s .other
  | object : BracketText '{' '}' (MemberText LeafText) s members → LeafText s .other

/-- A value with the outline of its first two levels.  The names of its members are Unicode. -/
inductive OutlineText : List Char → Outline → Prop where
  | scalar : ScalarText s leaf → OutlineText s (.leaf leaf)
  | list : BracketText '[' ']' LeafText s items → OutlineText s (.list items)
  | object : BracketText '{' '}' (MemberText LeafText) s (members.map fun m => (some m.1, m.2)) →
      OutlineText s (.object members)

/-- Bytes that consist of one value, with blanks around it. -/
def Document (bytes : ByteArray) (outline : Outline) : Prop :=
  ∃ before s after, (bytes.data.toList.map fun b => Char.ofNat b.toNat) = before ++ s ++ after ∧
    Blanks before ∧ OutlineText s outline ∧ Blanks after

end MediaVault.Json

/-!
# Blank characters

Trimming throughout the library removes every character with Unicode's
`White_Space` property, not only the ASCII blanks.  The definitions work on
lists of characters; the `String` versions are thin wrappers around them.
-/

namespace MediaVault.Text

/-- The characters with Unicode's `White_Space` property. -/
def isBlank (c : Char) : Bool :=
  let n := c.toNat
  (9 ≤ n && n ≤ 13) || n == 0x20 || n == 0x85 || n == 0xA0 || n == 0x1680 ||
    (0x2000 ≤ n && n ≤ 0x200A) || n == 0x2028 || n == 0x2029 || n == 0x202F ||
    n == 0x205F || n == 0x3000

/-- Drop the characters satisfying `p` from both ends. -/
def stripBoth (p : Char → Bool) (s : List Char) : List Char :=
  ((s.dropWhile p).reverse.dropWhile p).reverse

/-- Drop the characters satisfying `p` from the end. -/
def stripEnd (p : Char → Bool) (s : List Char) : List Char :=
  (s.reverse.dropWhile p).reverse

/-- The text without leading and trailing blanks. -/
def trimChars (s : List Char) : List Char :=
  stripBoth isBlank s

/-- The text without leading and trailing blanks. -/
def trim (s : String) : String :=
  String.ofList (trimChars s.toList)

/-- The text without the slashes at its end. -/
def trimSlashes (s : String) : String :=
  String.ofList (stripEnd (· == '/') s.toList)

/-- A text of blanks only, the empty text included. -/
def isBlankText (s : String) : Bool :=
  s.toList.all isBlank

/-- `s`, unless it is blank. -/
def nonBlank (s : String) : Option String :=
  if isBlankText s then none else some s

/-- Every blank that the standard library knows is one here too. -/
theorem isBlank_of_isWhitespace (c : Char) (h : c.isWhitespace = true) : isBlank c = true := by
  simp only [Char.isWhitespace, Bool.or_eq_true, decide_eq_true_eq] at h
  rcases h with ((h | h) | h) | h <;> subst h <;> decide

end MediaVault.Text
